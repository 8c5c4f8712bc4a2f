import ImportResolution.Proofs.Json.Notation

/-! Integers that are too long. A document is refused for one thing that is no fault of its
notation: an integer with more digits than are converted. It stands in the document, as a numeral of
the notation, at the place that the fault names. -/
namespace ImportResolution.Json

variable {s : Text} {fuel digits remaining : Nat}

/-- An integer as the notation writes it: a numeral without a fraction and without an exponent. -/
structure Numeral.Integral (n : Numeral) : Prop where
  formed : n.WellFormed
  fraction : n.fraction? = none
  exponent : n.exponent? = none

/-- An integer that is too long, with so many digits, stands in a text where so many characters of
the text remain. -/
def HoldsOverlong (s : Text) (digits remaining : Nat) : Prop :=
  ∃ (before : Text) (n : Numeral) (after : Text), s = before ++ (n.text ++ after) ∧
    (n.text ++ after).length = remaining ∧ n.Integral ∧ n.whole.length = digits ∧
      digitLimit < digits

/-- What stands before a text does not hide it. -/
theorem HoldsOverlong.behind (held : HoldsOverlong s digits remaining) (front : Text) :
    HoldsOverlong (front ++ s) digits remaining := by
  obtain ⟨before, n, after, rfl, rest⟩ := held
  exact ⟨front ++ before, n, after, by rw [List.append_assoc], rest⟩

/-! ### Reading up to the integer -/

/-- A number is refused as too long only where such an integer stands. -/
theorem number_overlong (refused : number s = .error (.integerTooLong digits, remaining)) :
    HoldsOverlong s digits remaining := by
  rcases number_cases s with other | ⟨n, after, formed, spelled, outcome⟩
  · rw [other] at refused
    cases refused
  · rw [outcome] at refused
    cases denoted : n.value? with
    | some v =>
      rw [denoted] at refused
      cases refused
    | none =>
      rw [denoted] at refused
      cases refused
      obtain ⟨fraction, exponent, long⟩ := Numeral.value?_eq_none.mp denoted
      exact ⟨[], n, after, spelled, by rw [spelled], ⟨formed, fraction, exponent⟩, rfl, long⟩

/-- Strings are never refused for an integer. -/
theorem string_not_overlong : string s ≠ .error (.integerTooLong digits, remaining) := by
  have codes_not_overlong (opening : Nat) (s : Text) :
      codes opening s ≠ .error (.integerTooLong digits, remaining) := by
    fun_induction codes opening s with
    | case6 a b c d rest closed code means ih =>
      exact fun refused => ih (Except.map_eq_error.mp refused)
    | case9 c rest _ _ meant means ih => exact fun refused => ih (Except.map_eq_error.mp refused)
    | case11 c rest quote alone _ _ escaped printable ih =>
      exact fun refused => ih (Except.map_eq_error.mp refused)
    | _ => simp
  exact fun refused => codes_not_overlong _ _ (Except.map_eq_error.mp refused)

/-- Where a search of a depth is refused for an integer, one that is too long stands. -/
structure FindsOverlong (fuel : Nat) : Prop where
  value : ∀ s digits remaining, value fuel s = .error (.integerTooLong digits, remaining) →
    HoldsOverlong s digits remaining
  items : ∀ s digits remaining, items fuel s = .error (.integerTooLong digits, remaining) →
    HoldsOverlong s digits remaining
  members : ∀ s digits remaining, members fuel s = .error (.integerTooLong digits, remaining) →
    HoldsOverlong s digits remaining

theorem value_overlong (finds : FindsOverlong fuel)
    (refused : value (fuel + 1) s = .error (.integerTooLong digits, remaining)) :
    HoldsOverlong s digits remaining := by
  rw [value.eq_def] at refused
  simp only at refused
  split at refused
  · exact absurd (Except.map_eq_error.mp refused) string_not_overlong
  · rename_i tail
    obtain ⟨blanks, -, cut⟩ := exists_blanks tail
    split at refused
    · cases refused
    · have inside := finds.members _ _ _ (Except.map_eq_error.mp refused)
      rw [cut]
      exact inside.behind ('\x7b' :: blanks)
  · rename_i tail
    obtain ⟨blanks, -, cut⟩ := exists_blanks tail
    split at refused
    · cases refused
    · have inside := finds.items _ _ _ (Except.map_eq_error.mp refused)
      rw [cut]
      exact inside.behind ('[' :: blanks)
  case h_10 => exact number_overlong refused
  all_goals cases refused

theorem items_overlong (finds : FindsOverlong fuel)
    (refused : items (fuel + 1) s = .error (.integerTooLong digits, remaining)) :
    HoldsOverlong s digits remaining := by
  rw [items.eq_def] at refused
  simp only at refused
  split at refused
  · rename_i stop refusedItem
    cases refused
    exact finds.value _ _ _ refusedItem
  · rename_i item afterItem readItem
    obtain ⟨text, rfl, -⟩ := (sound fuel).value _ _ _ readItem
    obtain ⟨before, -, cut⟩ := exists_blanks afterItem
    split at refused
    · cases refused
    · rename_i rest comma
      obtain ⟨after, -, cutMore⟩ := exists_blanks rest
      have later := finds.items _ _ _ (Except.map_eq_error.mp refused)
      have whole := later.behind (text ++ (before ++ ',' :: after))
      rw [cut, comma, cutMore]
      simpa using whole
    · cases refused

theorem members_overlong (finds : FindsOverlong fuel)
    (refused : members (fuel + 1) s = .error (.integerTooLong digits, remaining)) :
    HoldsOverlong s digits remaining := by
  rw [members.eq_def] at refused
  simp only at refused
  split at refused
  case h_2 => cases refused
  split at refused
  · rename_i stop refusedName
    cases refused
    exact absurd refusedName string_not_overlong
  · rename_i name afterName readName
    obtain ⟨spelling, spelledName, -⟩ := spelled_of_string readName
    obtain ⟨before, -, cutName⟩ := exists_blanks afterName
    split at refused
    case h_2 => cases refused
    rename_i afterColon colon
    obtain ⟨after, -, cutColon⟩ := exists_blanks afterColon
    have begun := spelledName
    rw [cutName, colon, cutColon] at begun
    split at refused
    · rename_i stop refusedItem
      cases refused
      have inside := finds.value _ _ _ refusedItem
      have whole := inside.behind (spelling ++ (before ++ ':' :: after))
      rw [begun]
      simpa using whole
    · rename_i item afterItem readItem
      obtain ⟨text, same, -⟩ := (sound fuel).value _ _ _ readItem
      obtain ⟨blanks, -, cut⟩ := exists_blanks afterItem
      split at refused
      · cases refused
      · rename_i rest comma
        obtain ⟨blanks', -, cutMore⟩ := exists_blanks rest
        have later := finds.members _ _ _ (Except.map_eq_error.mp refused)
        have whole := later.behind
          (spelling ++ (before ++ ':' :: (after ++ (text ++ (blanks ++ ',' :: blanks')))))
        rw [begun, same, cut, comma, cutMore]
        simpa using whole
      · cases refused

theorem findsOverlong (fuel : Nat) : FindsOverlong fuel := by
  induction fuel with
  | zero => constructor <;> intro s digits remaining refused <;> cases refused
  | succ fuel ih =>
    exact ⟨fun _ _ _ => value_overlong ih, fun _ _ _ => items_overlong ih,
      fun _ _ _ => members_overlong ih⟩

/-! ### Documents -/

theorem document_overlong (refused : document s = .error (.integerTooLong digits, remaining)) :
    HoldsOverlong s digits remaining := by
  unfold document at refused
  split at refused
  · cases refused
  · obtain ⟨blanks, -, cut⟩ := exists_blanks s
    split at refused
    · rename_i stop refusedValue
      cases refused
      rw [cut]
      exact ((findsOverlong _).value _ _ _ refusedValue).behind blanks
    · split at refused <;> cases refused

/-- A text whose fault is none of the notation holds an integer that is too long, at the place of
the fault. -/
theorem parse_overlong {fault : Fault} (refused : parse s = .error fault)
    (wellWritten : fault.isSyntax = false) :
    ∃ (before : Text) (n : Numeral) (after : Text), s = before ++ (n.text ++ after) ∧
      before.length = fault.offset ∧ n.Integral ∧ digitLimit < n.whole.length ∧
      fault.cause = .integerTooLong n.whole.length := by
  unfold parse at refused
  split at refused
  · cases refused
  · rename_i cause remaining stopped
    cases refused
    cases cause with
    | integerTooLong digits =>
      obtain ⟨before, n, after, rfl, rfl, integral, rfl, long⟩ := document_overlong stopped
      exact ⟨before, n, after, rfl, by simp, integral, long, rfl⟩
    | _ => cases wellWritten

end ImportResolution.Json
