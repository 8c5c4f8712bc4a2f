import ImportResolution.Proofs.Json.Distinct
import ImportResolution.Proofs.Json.Written
import Mathlib.Data.List.Forall2

/-! Values that are written and read again. The written form of a value spells the value, in every
layout, as long as its integers are not too long, no object in it repeats a name, and it has no
binary number in it; binary numbers come back as binary numbers. -/
namespace ImportResolution.Json

variable {v : Json} {layout : Layout}

/-- Values without binary numbers. -/
inductive FloatFree : Json → Prop where
  | null : FloatFree .null
  | bool (b : Bool) : FloatFree (.bool b)
  | int (i : Int) : FloatFree (.int i)
  | str (s : Text) : FloatFree (.str s)
  | arr {vs : List Json} (each : ∀ v ∈ vs, FloatFree v) : FloatFree (.arr vs)
  | obj {ms : List (Text × Json)} (each : ∀ m ∈ ms, FloatFree m.2) : FloatFree (.obj ms)

/-! ### Values that come back -/

/-- What comes back is the value itself, unless there are binary numbers in it. -/
def ComesBack (v back : Json) : Prop := FloatFree v ∨ FloatFree back → back = v

/-- A member keeps its name. -/
def ComesBackAs (m back : Text × Json) : Prop := back.1 = m.1 ∧ ComesBack m.2 back.2

theorem comesBack_arr {vs back : List Json} (each : List.Forall₂ ComesBack vs back) :
    ComesBack (.arr vs) (.arr back) := by
  intro free
  congr 1
  replace free : (∀ v ∈ vs, FloatFree v) ∨ ∀ v ∈ back, FloatFree v := by
    rcases free with free | free
    · cases free with | arr each => exact .inl each
    · cases free with | arr each => exact .inr each
  induction each with
  | nil => rfl
  | cons first others ih =>
    simp only [List.forall_mem_cons] at free
    rw [first (free.imp And.left And.left), ih (free.imp And.right And.right)]

theorem comesBack_obj {ms back : List (Text × Json)} (each : List.Forall₂ ComesBackAs ms back) :
    ComesBack (.obj ms) (.obj back) := by
  intro free
  congr 1
  replace free : (∀ m ∈ ms, FloatFree m.2) ∨ ∀ m ∈ back, FloatFree m.2 := by
    rcases free with free | free
    · cases free with | obj each => exact .inl each
    · cases free with | obj each => exact .inr each
  induction each with
  | nil => rfl
  | @cons m m' ms back first others ih =>
    simp only [List.forall_mem_cons] at free
    rw [ih (free.imp And.right And.right),
      Prod.ext first.1 (first.2 (free.imp And.left And.left))]

theorem names_of_comesBack {ms back : List (Text × Json)}
    (each : List.Forall₂ ComesBackAs ms back) : back.map Prod.fst = ms.map Prod.fst := by
  induction each with
  | nil => rfl
  | cons first others ih => simp [first.1, ih]

/-! ### Layouts -/

theorem blanks_turn (layout : Layout) : Blanks layout.turn := by
  cases layout with
  | line => simp [Blanks, Layout.turn]
  | block depth =>
    intro c member
    rcases List.mem_cons.mp member with rfl | member
    · decide
    · rw [List.eq_of_mem_replicate member]
      decide

/-- Between two items stand a comma and blanks. -/
theorem separator_comma (layout : Layout) :
    ∃ gap, Blanks gap ∧ layout.separator = ',' :: gap := by
  cases layout with
  | line => exact ⟨[' '], by simp [Blanks, isBlank], rfl⟩
  | block depth => exact ⟨_, blanks_turn (.block depth), rfl⟩

theorem intercalate_cons (separator first second : Text) (others : List Text) :
    List.intercalate separator (first :: second :: others)
      = first ++ (separator ++ List.intercalate separator (second :: others)) := by
  simp [List.intercalate, List.intersperse]

theorem items_intercalated {vs : List Json} {texts : List Text} {gap closing : Text}
    (each : List.Forall₂ (fun v text => Spells (.value v) text) vs texts) (nonempty : vs ≠ [])
    (between : Blanks gap) (behind : Blanks closing) :
    Spells (.items vs) (List.intercalate (',' :: gap) texts ++ closing) := by
  induction each with
  | nil => exact absurd rfl nonempty
  | cons first others ih =>
    cases others with
    | nil => simpa [List.intercalate] using Spells.lastItem first behind
    | cons second more =>
      have rest := ih (by simp)
      rw [intercalate_cons]
      simpa using Spells.item first blanks_nil between rest

theorem members_intercalated {ms : List (Text × Json)} {texts : List Text} {gap closing : Text}
    (each : List.Forall₂ (fun m text => Spells (.member m) text) ms texts) (nonempty : ms ≠ [])
    (between : Blanks gap) (behind : Blanks closing) :
    Spells (.members ms) (List.intercalate (',' :: gap) texts ++ closing) := by
  induction each with
  | nil => exact absurd rfl nonempty
  | cons first others ih =>
    cases others with
    | nil => simpa [List.intercalate] using Spells.lastMember first behind
    | cons second more =>
      have rest := ih (by simp)
      rw [intercalate_cons]
      simpa using Spells.member first blanks_nil between rest

/-- Items between brackets spell their array. -/
theorem bracketed_items {vs : List Json} {texts : List Text}
    (each : List.Forall₂ (fun v text => Spells (.value v) text) vs texts) :
    Spells (.value (.arr vs)) (bracketed layout '[' ']' texts) := by
  cases each with
  | nil => exact .emptyArray blanks_nil
  | cons first others =>
    obtain ⟨gap, between, separator⟩ := separator_comma layout.deeper
    have inner := items_intercalated (.cons first others) (by simp) between (blanks_turn layout)
    simpa [bracketed, separator] using Spells.array (blanks_turn layout.deeper) inner

/-- Members between braces spell the object of these members, if they repeat no name. -/
theorem bracketed_members {ms : List (Text × Json)} {texts : List Text}
    (each : List.Forall₂ (fun m text => Spells (.member m) text) ms texts)
    (names : (ms.map Prod.fst).Nodup) :
    Spells (.value (.obj ms)) (bracketed layout '\x7b' '\x7d' texts) := by
  cases each with
  | nil => exact .emptyObject blanks_nil
  | cons first others =>
    obtain ⟨gap, between, separator⟩ := separator_comma layout.deeper
    have inner := members_intercalated (.cons first others) (by simp) between (blanks_turn layout)
    rw [← object_of_nodup names]
    simpa [bracketed, separator] using Spells.object (blanks_turn layout.deeper) inner

/-! ### Written values -/

mutual

/-- The written form of a value spells what comes back of it. -/
theorem written_spelled (layout : Layout) (v : Json) (writable : isWritable v = true)
    (distinct : Distinct v) :
    ∃ back, Spells (.value back) (written layout v) ∧ ComesBack v back := by
  cases v with
  | null => exact ⟨.null, .word (by simp [words, written]), fun _ => rfl⟩
  | bool b =>
    refine ⟨.bool b, .word ?_, fun _ => rfl⟩
    cases b <;> simp [words, written]
  | int i => exact ⟨.int i, ofInt_spelled writable, fun _ => rfl⟩
  | float b =>
    obtain ⟨b', spelled⟩ := writtenFloat_spelled b
    exact ⟨.float b', spelled, fun free => by rcases free with free | free <;> cases free⟩
  | str s => exact ⟨.str s, .string (writtenString_spelled s), fun _ => rfl⟩
  | arr vs =>
    obtain ⟨back, spelled, comes⟩ := writtenItems_spelled layout.deeper vs writable
      (by cases distinct with
        | scalar plain => cases plain
        | arr each => exact each)
    exact ⟨.arr back, bracketed_items spelled, comesBack_arr comes⟩
  | obj ms =>
    obtain ⟨names, each⟩ : (ms.map Prod.fst).Nodup ∧ ∀ m ∈ ms, Distinct m.2 := by
      cases distinct with
      | scalar plain => cases plain
      | obj names each => exact ⟨names, each⟩
    obtain ⟨back, spelled, comes⟩ := writtenMembers_spelled layout.deeper ms writable each
    exact ⟨.obj back, bracketed_members spelled (by rwa [names_of_comesBack comes]),
      comesBack_obj comes⟩

theorem writtenItems_spelled (layout : Layout) (vs : List Json) (writable : areWritable vs = true)
    (distinct : ∀ v ∈ vs, Distinct v) :
    ∃ back, List.Forall₂ (fun v text => Spells (.value v) text) back (writtenItems layout vs) ∧
      List.Forall₂ ComesBack vs back := by
  cases vs with
  | nil => exact ⟨[], .nil, .nil⟩
  | cons v vs =>
    obtain ⟨here, there⟩ : isWritable v = true ∧ areWritable vs = true := by
      simpa [areWritable] using writable
    obtain ⟨first, others⟩ := List.forall_mem_cons.mp distinct
    obtain ⟨back, spelled, comes⟩ := written_spelled layout v here first
    obtain ⟨backs, spelleds, allCome⟩ := writtenItems_spelled layout vs there others
    exact ⟨back :: backs, .cons spelled spelleds, .cons comes allCome⟩

theorem writtenMembers_spelled (layout : Layout) (ms : List (Text × Json))
    (writable : membersWritable ms = true) (distinct : ∀ m ∈ ms, Distinct m.2) :
    ∃ back, List.Forall₂ (fun m text => Spells (.member m) text) back (writtenMembers layout ms) ∧
      List.Forall₂ ComesBackAs ms back := by
  cases ms with
  | nil => exact ⟨[], .nil, .nil⟩
  | cons m ms =>
    obtain ⟨name, v⟩ := m
    obtain ⟨here, there⟩ : isWritable v = true ∧ membersWritable ms = true := by
      simpa [membersWritable] using writable
    obtain ⟨first, others⟩ := List.forall_mem_cons.mp distinct
    obtain ⟨back, spelled, comes⟩ := written_spelled layout v here first
    obtain ⟨backs, spelleds, allCome⟩ := writtenMembers_spelled layout ms there others
    have space : Blanks [' '] := by simp [Blanks, isBlank]
    have named := Spells.named (writtenString_spelled name) blanks_nil space spelled
    refine ⟨(name, back) :: backs, .cons ?_ spelleds, .cons ⟨rfl, comes⟩ allCome⟩
    simpa using named

end

/-- A value that can be written and has no binary number in it is read back from its written form,
in every layout and with blanks behind it. -/
theorem parse_written (layout : Layout) (writable : isWritable v = true) (distinct : Distinct v)
    (free : FloatFree v) {after : Text} (behind : Blanks after) :
    parse (written layout v ++ after) = .ok v := by
  obtain ⟨back, spelled, comes⟩ := written_spelled layout v writable distinct
  rw [comes (.inl free)] at spelled
  exact parse_eq_ok_iff.mpr ⟨[], _, after, rfl, blanks_nil, behind, spelled⟩

/-- An object that can be written is read back as an object of the same names, whatever numbers
there are in it. -/
theorem parse_written_obj (layout : Layout) {ms : List (Text × Json)}
    (writable : membersWritable ms = true) (names : (ms.map Prod.fst).Nodup)
    (distinct : ∀ m ∈ ms, Distinct m.2) {after : Text} (behind : Blanks after) :
    ∃ back, parse (written layout (.obj ms) ++ after) = .ok (.obj back) ∧
      List.Forall₂ ComesBackAs ms back := by
  obtain ⟨back, spelled, comes⟩ := writtenMembers_spelled layout.deeper ms writable distinct
  have whole : Spells (.value (.obj back)) (written layout (.obj ms)) :=
    bracketed_members spelled (by rwa [names_of_comesBack comes])
  exact ⟨back, parse_eq_ok_iff.mpr ⟨[], _, after, rfl, blanks_nil, behind, whole⟩, comes⟩

/-- What is found in an object that came back is what came back of what was there. -/
theorem find?_of_comesBack {ms back : List (Text × Json)} {name : Text}
    (comes : List.Forall₂ ComesBackAs ms back) (held : find? back name = some v) :
    ∃ before, find? ms name = some before ∧ ComesBack before v := by
  induction comes with
  | nil => cases held
  | @cons m m' ms back first others ih =>
    obtain ⟨same, comes⟩ := first
    unfold find? at held ⊢
    rw [← same]
    split at held
    · rename_i here
      cases held
      exact ⟨m.2, if_pos here, comes⟩
    · rename_i elsewhere
      obtain ⟨before, found, comes⟩ := ih held
      exact ⟨before, by rw [if_neg elsewhere, found], comes⟩

end ImportResolution.Json
