import ImportResolution.Json.Nesting
import Mathlib.Data.List.Basic

/-! The room that a document needs: no more of it than the document has characters. A text of
brackets that are only opened is no document: a value is missing behind the last of them. -/
namespace ImportResolution.Json

variable {room : Nat} {standing : Standing} {s : Text}

theorem tooDeep?_of_length (short : s.length ≤ room) : tooDeep? standing room s = none := by
  induction s generalizing standing room with
  | nil => cases standing <;> rfl
  | cons c rest ih =>
    have shorter : rest.length < room := short
    have inside (standing : Standing) : tooDeep? standing room rest = none :=
      ih (Nat.le_of_lt shorter)
    cases standing with
    | escape => exact inside .string
    | string =>
      simp only [tooDeep?]
      split
      · exact inside .escape
      split
      · exact inside .outside
      · exact inside .string
    | outside =>
      simp only [tooDeep?]
      split
      · exact inside .string
      split
      · exact ih (by omega)
      cases Container.opened? c with
      | none => exact inside .outside
      | some kind =>
        -- the character that opens a container is one that the rest no longer has
        cases room with
        | zero => omega
        | succ room => exact ih (by omega)

/-- There is room for every text that is no longer than there is room. -/
theorem overflow?_of_length (short : s.length ≤ room) : overflow? room s = none := by
  apply tooDeep?_of_length
  unfold faultless
  split
  · exact short
  · exact Nat.le_trans (List.length_take_le' _ _) short

/-! ### Brackets that are only opened -/

theorem value_brackets {count fuel : Nat} (enough : 2 * count < fuel) :
    value fuel (List.replicate count '[') = .error (.value, 0) := by
  induction count generalizing fuel with
  | zero =>
    cases fuel with
    | zero => omega
    | succ fuel => rfl
  | succ count ih =>
    obtain ⟨fuel, rfl⟩ : ∃ fewer, fuel = fewer + 2 := ⟨fuel - 2, by omega⟩
    have first : items (fuel + 1) (List.replicate count '[') = .error (.value, 0) := by
      have inner : 2 * count < fuel := by omega
      simp only [items, ih inner]
    have read : value (fuel + 2) (List.replicate (count + 1) '[')
        = (items (fuel + 1) (List.replicate count '[')).map
            fun inside => (.arr inside.1, inside.2) := by
      cases count <;> rfl
    rw [read, first]
    rfl

theorem parse_brackets (count : Nat) :
    parse (List.replicate count '[') = .error ⟨.value, count⟩ := by
  have read : document (List.replicate count '[') = .error (.value, 0) := by
    have blankless : skipBlanks (List.replicate count '[') = List.replicate count '[' := by
      cases count <;> rfl
    have refused := @value_brackets count (2 * (List.replicate count '[').length + 2)
      (by rw [List.length_replicate]; omega)
    unfold document
    split
    · rename_i mark
      cases count <;> simp [List.replicate_succ] at mark
    · rw [blankless, refused]
  simp only [parse, read, List.length_replicate, Nat.sub_zero]

end ImportResolution.Json
