import ImportResolution.Proofs.Configuration.Decision
import ImportResolution.Proofs.Json.Distinct
import ImportResolution.Proofs.Outcome

/-! Entries that are located repeat no name in any of their objects: both notations keep the last
value of a name that is written again, and what a configuration holds is passed on as it is. -/
namespace ImportResolution

namespace Relaxed

open Json

variable {v : Json}

/-- A numeral denotes a number. -/
theorem scalar_of_numeral {n : Numeral} (denotes : n.value = .ok v) : v.isContainer = false := by
  unfold Numeral.value at denotes
  split at denotes
  · unfold decimalValue at denotes
    split at denotes
    · split at denotes <;> cases denotes
      rfl
    · simp only at denotes
      split at denotes
      · split at denotes <;> cases denotes
        rfl
      · cases denotes
  all_goals cases denotes; rfl

mutual

/-- The value of a document repeats no name. -/
theorem Document.distinct_value (document : Document) {v : Json}
    (denotes : document.value = .ok v) :
    Distinct v := by
  cases document with
  | null => cases denotes; exact .scalar rfl
  | bool value => cases denotes; exact .scalar rfl
  | string value => cases denotes; exact .scalar rfl
  | numeral value =>
    rw [Document.value] at denotes
    exact .scalar (scalar_of_numeral denotes)
  | array items =>
    rw [Document.value] at denotes
    obtain ⟨vs, read, rfl⟩ := Except.map_eq_ok.mp denotes
    exact .arr (distinct_itemValues items read)
  | object members =>
    rw [Document.value] at denotes
    obtain ⟨ms, read, rfl⟩ := Except.map_eq_ok.mp denotes
    exact distinct_object (distinct_memberValues members read)

theorem distinct_itemValues (items : List Document) {vs : List Json}
    (denote : itemValues items = .ok vs) : ∀ v ∈ vs, Distinct v := by
  cases items with
  | nil => cases denote; simp
  | cons item rest =>
    unfold itemValues at denote
    split at denote
    · cases denote
    · rename_i v read
      obtain ⟨others, more, rfl⟩ := Except.map_eq_ok.mp denote
      exact List.forall_mem_cons.mpr ⟨item.distinct_value read, distinct_itemValues rest more⟩

theorem distinct_memberValues (members : List (Text × Document)) {ms : List (Text × Json)}
    (denote : memberValues members = .ok ms) : ∀ m ∈ ms, Distinct m.2 := by
  cases members with
  | nil => cases denote; simp
  | cons member rest =>
    obtain ⟨name, item⟩ := member
    unfold memberValues at denote
    split at denote
    · cases denote
    · rename_i v read
      obtain ⟨others, more, rfl⟩ := Except.map_eq_ok.mp denote
      exact List.forall_mem_cons.mpr ⟨item.distinct_value read, distinct_memberValues rest more⟩

end

/-- A value that was read in the relaxed notation repeats no name. -/
theorem distinct_of_parse {text : Text} (accepted : parse text = .ok v) : Distinct v := by
  unfold parse at accepted
  split at accepted
  · cases accepted
  · simp only at accepted
    split at accepted
    · cases accepted
    · rename_i read _ _
      refine read.distinct_value ?_
      cases denotes : read.value with
      | error fault => rw [denotes] at accepted; cases accepted
      | ok value => rw [denotes] at accepted; cases accepted; rfl

end Relaxed

namespace Configuration

open Json

variable {h : Host} {fileName source path : Text} {directory : PlainPath} {value listed : Json}
  {parse : Text → Except ReadFault Json}

theorem distinct_of_find? {members : List (Text × Json)} {name : Text}
    (each : ∀ m ∈ members, Distinct m.2) (held : find? members name = some value) :
    Distinct value := by
  induction members with
  | nil => cases held
  | cons m members ih =>
    obtain ⟨first, others⟩ := List.forall_mem_cons.mp each
    unfold find? at held
    split at held
    · cases held
      exact first
    · exact ih others held

theorem distinct_items {items : List Json} (distinct : Distinct (.arr items)) :
    ∀ item ∈ items, Distinct item := by
  cases distinct with
  | scalar plain => cases plain
  | arr each => exact each

theorem distinct_members {members : List (Text × Json)} (distinct : Distinct (.obj members)) :
    ∀ m ∈ members, Distinct m.2 := by
  cases distinct with
  | scalar plain => cases plain
  | obj names each => exact each

theorem distinct_entriesOf (distinct : Distinct listed) :
    ∀ entry ∈ entriesOf listed, Distinct entry := by
  unfold entriesOf
  split
  · rename_i options others
    have held : Distinct options := distinct_items distinct options (by simp)
    split
    · simp
    · split
      · exact distinct_items held
      · simpa using held
  · simp

/-- A file that is read in a notation whose values repeat no name holds such a value. -/
theorem distinct_of_reading (sound : ∀ text v, parse text = .ok v → Distinct v)
    (read : reading h parse path = .value value) : Distinct value := by
  obtain ⟨_, _, _, _, _, accepted⟩ := file_of_reading read
  exact sound _ _ accepted

/-- What a directory says repeats no name. -/
theorem distinct_of_said (said : Says h fileName directory (.value value source)) :
    Distinct value := by
  cases said with
  | file named read present =>
    exact distinct_of_reading
      (fun text v accepted => Relaxed.distinct_of_parse (Room.parseRelaxed_eq_ok.mp accepted).2) read
  | manifest silent read held present =>
    have manifest := distinct_of_reading
      (fun text v accepted => Json.distinct_of_parse (Room.parse_eq_ok.mp accepted).2) read
    exact distinct_of_find? (distinct_members manifest) held

/-- No entry that is located repeats a name. -/
theorem distinct_of_located {start? : Option Text} {located : Located}
    (found : (discover h start? fileName).outcome = .ok (.located located)) :
    ∀ entry ∈ located.entries, Distinct entry := by
  have discovers := discovers_outcome h start? fileName
  rw [found] at discovers
  cases discovers with
  | decided started way passed decides =>
    cases decides with
    | located said container lists =>
      obtain ⟨members, before, after, rfl, held, -, -⟩ := lists
      have plugins := distinct_of_find? (distinct_members (distinct_of_said said)) held
      exact distinct_entriesOf (distinct_items plugins _ (by simp))
  | undecided started passed => simp

end Configuration
end ImportResolution
