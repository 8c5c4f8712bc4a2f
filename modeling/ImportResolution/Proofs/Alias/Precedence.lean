import ImportResolution.Proofs.Alias.Lexical
import Mathlib.Data.List.Pairwise

/-! Precedence among aliases. Signs are ordered by their segments: a sign that stands at the start
of another one takes all its specifiers. So an entry is of no use exactly if such an entry comes
before it, and where no sign stands at the start of another, the order of the entries does not
matter. -/
namespace ImportResolution

variable {specifier sign shorter longer root : Text} {entry : AliasEntry}
  {entries others : List AliasEntry}

/-! ### The order of signs -/

/-- A sign stands at the start of a specifier exactly if its segments do. -/
theorem hasSign_iff_segments :
    hasSign specifier sign = true ↔ sign ≠ [] ∧ Text.segments sign <+: Text.segments specifier := by
  rw [hasSign_iff, Signs]
  refine and_congr_right fun _ => ⟨?_, ?_⟩
  · rintro (rfl | ⟨rest, rfl⟩)
    · exact List.prefix_refl _
    · rw [List.append_assoc, List.singleton_append, Text.segments_append_slash]
      exact List.prefix_append _ _
  · rintro ⟨rest, split⟩
    by_cases whole : rest = []
    · refine .inl ?_
      rw [← Text.ofSegments_segments specifier, ← split, whole, List.append_nil,
        Text.ofSegments_segments]
    · refine .inr ⟨Text.ofSegments rest, ?_⟩
      rw [← Text.ofSegments_segments specifier, ← split,
        Text.ofSegments_append (Text.segments_ne_nil sign) whole, Text.ofSegments_segments,
        List.append_assoc, List.singleton_append]

theorem hasSign_self (nonempty : sign ≠ []) : hasSign sign sign = true :=
  hasSign_iff_segments.mpr ⟨nonempty, List.prefix_refl _⟩

/-- A sign at the start of a sign takes all its specifiers. -/
theorem hasSign_trans (further : hasSign specifier longer = true)
    (start : hasSign longer shorter = true) : hasSign specifier shorter = true := by
  rw [hasSign_iff_segments] at further start ⊢
  exact ⟨start.1, start.2.trans further.2⟩

/-- Of two signs of one specifier, one stands at the start of the other. -/
theorem hasSign_comparable (first : hasSign specifier sign = true)
    (second : hasSign specifier shorter = true) :
    hasSign sign shorter = true ∨ hasSign shorter sign = true := by
  rw [hasSign_iff_segments] at first second
  simp only [hasSign_iff_segments]
  rcases List.prefix_or_prefix_of_prefix first.2 second.2 with start | start
  · exact .inr ⟨first.1, start⟩
  · exact .inl ⟨second.1, start⟩

namespace AliasEntry

theorem signOf_ne_nil (sign? : Option Json) : signOf sign? ≠ [] := by
  unfold signOf
  split <;> simp [defaultSign]

theorem sign_ofMembers_ne_nil (members : List (Text × Json)) : (ofMembers members).sign ≠ [] :=
  signOf_ne_nil _

theorem sign_ofJson_ne_nil (value : Json) : (ofJson value).sign ≠ [] := by
  cases value <;> exact sign_ofMembers_ne_nil _

/-- The signs that a configuration gives are not empty. -/
theorem sign_ne_nil {configuration : Json} (listed : ofConfiguration configuration = .ok entries) :
    ∀ entry ∈ entries, entry.sign ≠ [] := by
  obtain ⟨items, -, rfl⟩ := Except.map_eq_ok.mp listed
  intro entry member
  cases items with
  | nil =>
    obtain rfl := List.mem_singleton.mp member
    exact sign_ofMembers_ne_nil []
  | cons item items =>
    obtain ⟨value, -, rfl⟩ := List.mem_map.mp member
    exact sign_ofJson_ne_nil value

/-- Neither of the signs of two entries stands at the start of the other. -/
def Apart (first second : AliasEntry) : Prop :=
  hasSign first.sign second.sign = false ∧ hasSign second.sign first.sign = false

end AliasEntry

namespace Application

/-! ### The entry that is selected -/

/-- The entry that applied, if one did. -/
def selected (applied : Application) : Option AliasEntry := applied.entry?.map Prod.snd

/-- The entry that decides on a specifier stands where no earlier one applies. -/
theorem selected_iff {place : Nat} :
    Application.entry? (ofEntries specifier entries root) = some (place, entry) ↔
      ∃ before after, entries = before ++ entry :: after ∧ before.length = place ∧
        (∀ other ∈ before, other.applies specifier = false) ∧ entry.applies specifier = true := by
  constructor
  · intro selected
    rcases passed_or_first specifier entries with
      unsigned | ⟨before, first, after, rfl, unsigned, applies⟩
    · rw [ofEntries_of_passed unsigned] at selected
      cases selected
    · rw [ofEntries_of_first unsigned applies] at selected
      cases selected
      exact ⟨before, after, rfl, rfl, unsigned, applies⟩
  · rintro ⟨before, after, rfl, rfl, unsigned, applies⟩
    rw [ofEntries_of_first unsigned applies]

/-- Of entries whose signs stand apart, one at most applies to a specifier. -/
theorem eq_of_applies {other : AliasEntry} (apart : entries.Pairwise AliasEntry.Apart)
    (member : entry ∈ entries) (member' : other ∈ entries)
    (applies : entry.applies specifier = true) (applies' : other.applies specifier = true) :
    entry = other := by
  have symmetric : Std.Symm AliasEntry.Apart := ⟨fun _ _ apart => apart.symm⟩
  by_contra distinct
  obtain ⟨first, second⟩ := apart.forall member member' distinct
  rcases hasSign_comparable applies applies' with start | start
  · rw [first] at start
    cases start
  · rw [second] at start
    cases start

/-- An entry that no earlier one shadows is selected for its own sign, and one that is shadowed is
never selected. -/
theorem exists_selected_iff (signed : ∀ entry ∈ entries, entry.sign ≠ []) (root : Text)
    (place : Nat) (inside : place < entries.length) :
    (∃ specifier,
        Application.entry? (ofEntries specifier entries root) = some (place, entries[place])) ↔
      ∀ earlier (before : earlier < place),
        hasSign entries[place].sign entries[earlier].sign = false := by
  constructor
  · rintro ⟨specifier, selected⟩ earlier before
    generalize entries[place] = entry at selected ⊢
    obtain ⟨front, back, rfl, rfl, unsigned, applies⟩ := selected_iff.mp selected
    have passed := unsigned front[earlier] (List.getElem_mem before)
    rw [List.getElem_append_left before, Bool.eq_false_iff]
    intro shadowed
    rw [AliasEntry.applies, hasSign_trans applies shadowed] at passed
    cases passed
  · intro unshadowed
    refine ⟨entries[place].sign, selected_iff.mpr
      ⟨entries.take place, entries.drop (place + 1), ?_, ?_, ?_, ?_⟩⟩
    · rw [List.getElem_cons_drop, List.take_append_drop]
    · simp [Nat.le_of_lt inside]
    · intro other member
      obtain ⟨earlier, before, rfl⟩ := List.mem_take_iff_getElem.mp member
      exact unshadowed earlier (by omega)
    · exact hasSign_self (signed _ (List.getElem_mem inside))

/-- Entries whose signs stand apart select alike in every order. -/
theorem ofEntries_perm (apart : entries.Pairwise AliasEntry.Apart) (perm : others.Perm entries)
    (matched : ∃ entry ∈ entries, entry.applies specifier = true) :
    (ofEntries specifier others root).specifier = (ofEntries specifier entries root).specifier ∧
      (ofEntries specifier others root).options = (ofEntries specifier entries root).options ∧
      (ofEntries specifier others root).selected
        = (ofEntries specifier entries root).selected := by
  obtain ⟨entry, member, applies⟩ := matched
  have selects (listed : List AliasEntry) (same : listed.Perm entries) :
      ∃ place, ofEntries specifier listed root
        = ⟨entry.anchored root specifier, entry.options, some (place, entry)⟩ := by
    rcases passed_or_first specifier listed with
      unsigned | ⟨before, first, after, rfl, unsigned, applies'⟩
    · rw [unsigned entry (same.mem_iff.mpr member)] at applies
      cases applies
    · obtain rfl := eq_of_applies apart member (same.mem_iff.mp (by simp)) applies applies'
      exact ⟨_, ofEntries_of_first unsigned applies⟩
  obtain ⟨place, first⟩ := selects others perm
  obtain ⟨place', second⟩ := selects entries (List.Perm.refl _)
  rw [first, second]
  exact ⟨rfl, rfl, rfl⟩

/-- Signs are ordered by their segments, and two signs of one specifier are comparable. So an entry
is selected for some specifier exactly if no earlier entry has a sign at the start of its own, and
entries whose signs stand apart decide alike in every order on the specifiers that one of them
applies to. -/
theorem selected_unless_shadowed (signed : ∀ entry ∈ entries, entry.sign ≠ []) :
    (∀ specifier sign, hasSign specifier sign = true ↔
      sign ≠ [] ∧ Text.segments sign <+: Text.segments specifier) ∧
    (∀ first second third, hasSign first second = true → hasSign second third = true →
      hasSign first third = true) ∧
    (∀ specifier sign other, hasSign specifier sign = true → hasSign specifier other = true →
      hasSign sign other = true ∨ hasSign other sign = true) ∧
    (∀ root place (inside : place < entries.length),
      (∃ specifier,
          Application.entry? (ofEntries specifier entries root) = some (place, entries[place])) ↔
        ∀ earlier (before : earlier < place),
          hasSign entries[place].sign entries[earlier].sign = false) ∧
    (entries.Pairwise AliasEntry.Apart → ∀ others : List AliasEntry, others.Perm entries →
      ∀ root specifier, (∃ entry ∈ entries, entry.applies specifier = true) →
        (ofEntries specifier others root).specifier
            = (ofEntries specifier entries root).specifier ∧
          (ofEntries specifier others root).options = (ofEntries specifier entries root).options ∧
          (ofEntries specifier others root).selected
            = (ofEntries specifier entries root).selected) :=
  ⟨fun _ _ => hasSign_iff_segments, fun _ _ _ => hasSign_trans,
    fun _ _ _ => hasSign_comparable,
    fun root place inside => exists_selected_iff signed root place inside,
    fun apart _ perm _ _ matched => ofEntries_perm apart perm matched⟩

/-- Three entries, the default one among them; the first sign stands at the start of the last. -/
def nestedEntries : List AliasEntry :=
  [⟨"@".toList, [], []⟩, ⟨"~".toList, [], []⟩, ⟨"@/a".toList, "lib".toList, []⟩]

/-- The configuration that lists them. -/
def nestedConfiguration : Json :=
  .arr [.obj [("rootPathPrefix".toList, .str "@".toList)], .null,
    .obj [("rootPathPrefix".toList, .str "@/a".toList),
      ("rootPathSuffix".toList, .str "/lib".toList)]]

/-- The default entry is selected for some specifier and the last one for none, and the others
select alike in either order. -/
theorem selected_unless_shadowed_nested :
    AliasEntry.ofConfiguration nestedConfiguration = .ok nestedEntries ∧
      (∃ specifier, Application.entry? (ofEntries specifier nestedEntries "/p".toList)
        = some (1, nestedEntries[1])) ∧
      (¬ ∃ specifier, Application.entry? (ofEntries specifier nestedEntries "/p".toList)
        = some (2, nestedEntries[2])) ∧
      (ofEntries "~/x".toList [nestedEntries[1], nestedEntries[0]] "/p".toList).selected
        = (ofEntries "~/x".toList [nestedEntries[0], nestedEntries[1]] "/p".toList).selected := by
  have listed : AliasEntry.ofConfiguration nestedConfiguration = .ok nestedEntries := rfl
  obtain ⟨-, -, -, selected, -⟩ := selected_unless_shadowed (AliasEntry.sign_ne_nil listed)
  have signed : ∀ entry ∈ [nestedEntries[0], nestedEntries[1]], entry.sign ≠ [] := by decide
  obtain ⟨-, -, -, -, alike⟩ := selected_unless_shadowed signed
  have apart : [nestedEntries[0], nestedEntries[1]].Pairwise AliasEntry.Apart := by
    simp only [List.pairwise_pair]
    exact ⟨by decide, by decide⟩
  refine ⟨listed, (selected _ 1 (by decide)).mpr ?_, ?_, ?_⟩
  · intro earlier before
    obtain rfl : earlier = 0 := by omega
    show hasSign "~".toList "@".toList = false
    decide
  · rw [selected _ 2 (by decide)]
    intro unshadowed
    exact absurd (unshadowed 0 (by decide)) (by decide)
  · exact (alike apart _ (.swap _ _ []) _ _ ⟨nestedEntries[1], by simp, by decide⟩).2.2

end Application
end ImportResolution
