import ImportResolution.Proofs.Alias.Sanitizing
import ImportResolution.Proofs.Alias.Spelling

/-! Slashes around suffixes. Of the slashes at the ends of a suffix only one at each end is taken
away when an entry is read, but none of those that are left has a part in where the entry leads: the
names in the suffix are the same, and nothing else of it counts. -/
namespace ImportResolution

variable {suffix s specifier root : Text} {entry other : AliasEntry}
  {before after : List AliasEntry}

/-- Setting a member leaves those of other names as they are, in their order. -/
theorem Json.filter_put (keeps : Text → Bool) {name : Text} (dropped : keeps name = false)
    (members : List (Text × Json)) (value : Json) :
    (put members name value).filter (fun member => keeps member.1)
      = members.filter fun member => keeps member.1 := by
  induction members with
  | nil => simp [put, dropped]
  | cons member rest ih =>
    by_cases same : member.1 = name
    · simp [put, same, dropped]
    · cases kept : keeps member.1 <;> simp [put, same, kept, ih]

namespace PlainPath

/-- Slashes at the end of a text are no part of its names. -/
theorem names_append_replicate (s : Text) (slashes : Nat) :
    (ofText (s ++ List.replicate slashes '/')).names = (ofText s).names := by
  cases slashes with
  | zero => simp
  | succ slashes =>
    have none : (ofText (List.replicate slashes '/')).names = [] := by
      simpa using names_replicate slashes []
    rw [List.replicate_succ, names_append_slash, none, List.append_nil]

end PlainPath

namespace AliasEntry

/-- A text with slashes around it. -/
def slashed (leading : Nat) (s : Text) (trailing : Nat) : Text :=
  List.replicate leading '/' ++ (s ++ List.replicate trailing '/')

/-- The entry that members give with another suffix. -/
def withSuffix (members : List (Text × Json)) (suffix : Text) : AliasEntry :=
  ofJson (.obj (Json.put members suffixMember (.str suffix)))

/-! ### Suffixes -/

/-- In a text of one line, what is taken away at the end is a slash. -/
theorem dropLastSlash_cases (single : '\n' ∉ s) :
    dropLastSlash s = s ∨ s = dropLastSlash s ++ ['/'] := by
  have exposed : ¬ ['/', '\n'] <:+ s := fun hidden => single (hidden.subset (by simp))
  rw [dropLastSlash_of_exposed exposed, withoutLast]
  split
  · rename_i last
    obtain ⟨kept, rfl⟩ := List.getLast?_eq_some_iff.mp last
    exact .inr (by rw [List.dropLast_concat])
  · exact .inl rfl

theorem names_dropLastSlash (single : '\n' ∉ s) :
    (PlainPath.ofText (dropLastSlash s)).names = (PlainPath.ofText s).names := by
  rcases dropLastSlash_cases single with same | cut
  · rw [same]
  · calc (PlainPath.ofText (dropLastSlash s)).names
        = (PlainPath.ofText (dropLastSlash s ++ ['/'])).names :=
          (PlainPath.names_append_replicate (dropLastSlash s) 1).symm
      _ = (PlainPath.ofText s).names := by rw [← cut]

/-- Sanitizing a suffix of one line leaves its names as they are. -/
theorem names_sanitize (single : '\n' ∉ s) :
    (PlainPath.ofText (sanitize s)).names = (PlainPath.ofText s).names := by
  unfold sanitize
  split
  · rename_i rest
    rw [names_dropLastSlash (fun inside => single (List.mem_cons_of_mem '/' inside)),
      PlainPath.names_slash]
  · exact names_dropLastSlash single

theorem names_slashed (leading : Nat) (s : Text) (trailing : Nat) :
    (PlainPath.ofText (slashed leading s trailing)).names = (PlainPath.ofText s).names := by
  rw [slashed, PlainPath.names_replicate, PlainPath.names_append_replicate]

theorem single_slashed (single : '\n' ∉ s) (leading trailing : Nat) :
    '\n' ∉ slashed leading s trailing := by
  simp [slashed, single, List.mem_replicate]

/-! ### Entries -/

/-- Two entries differ in nothing but the slashes of their suffixes. -/
structure Alike (entry other : AliasEntry) : Prop where
  sign : entry.sign = other.sign
  options : entry.options = other.options
  names : (PlainPath.ofText entry.suffix).names = (PlainPath.ofText other.suffix).names

theorem Alike.applies (alike : Alike entry other) (specifier : Text) :
    entry.applies specifier = other.applies specifier := by
  rw [AliasEntry.applies, alike.sign, AliasEntry.applies]

/-- They lead to the same path. -/
theorem Alike.anchored (alike : Alike entry other) (root : Text)
    (applies : entry.applies specifier = true) :
    entry.anchored root specifier = other.anchored root specifier := by
  rw [anchored_eq root applies, anchored_eq root (alike.applies specifier ▸ applies)]
  refine Path.normalize_join_congr root rfl rfl ?_
  rw [names_spelled, names_spelled, alike.names, alike.sign]

/-- The suffix has no part in the options. -/
theorem options_withSuffix (members : List (Text × Json)) (suffix : Text) :
    (withSuffix members suffix).options = (ofMembers members).options :=
  Json.filter_put (fun name => name ≠ signMember ∧ name ≠ suffixMember) (by simp) members _

/-- With slashes around it or without, a suffix makes alike entries of the same members. -/
theorem alike_withSuffix (single : '\n' ∉ suffix) (leading trailing : Nat)
    (members : List (Text × Json)) :
    Alike (withSuffix members (slashed leading suffix trailing)) (withSuffix members suffix) where
  sign := by
    have other : signMember ≠ suffixMember := by decide
    simp only [withSuffix, ofJson, ofMembers, Json.find?_put_of_ne members _ other]
  options := by rw [options_withSuffix, options_withSuffix]
  names := by
    simp only [withSuffix, ofJson, ofMembers, Json.find?_put, suffixOf]
    rw [names_sanitize (single_slashed single leading trailing), names_slashed,
      names_sanitize single]

end AliasEntry

namespace Application

/-- Entries that are alike make the same of a specifier, in whatever place they stand. -/
theorem ofEntriesFrom_alike (alike : entry.Alike other) (before after : List AliasEntry)
    (index : Nat) (options : List (Text × Json)) :
    let first := ofEntriesFrom specifier root index options (before ++ entry :: after)
    let second := ofEntriesFrom specifier root index options (before ++ other :: after)
    first.specifier = second.specifier ∧ first.options = second.options := by
  induction before generalizing index options with
  | nil =>
    simp only [List.nil_append, ofEntriesFrom, alike.applies specifier, alike.options]
    split
    · rename_i applies
      exact ⟨alike.anchored root ((alike.applies specifier).trans applies), rfl⟩
    · exact ⟨rfl, rfl⟩
  | cons passed before ih =>
    simp only [List.cons_append, ofEntriesFrom]
    split
    · exact ⟨rfl, rfl⟩
    · exact ih _ _

/-- Slashes around the suffix of an entry never change what a specifier becomes, neither the path
nor the options, whatever the root, the rest of the entry and the entries beside it are. -/
theorem suffix_slashes_ignored (single : '\n' ∉ suffix) (leading trailing : Nat)
    (members : List (Text × Json)) (before after : List AliasEntry) (specifier root : Text) :
    let slashed := ofEntries specifier
      (before ++ .withSuffix members (AliasEntry.slashed leading suffix trailing) :: after) root
    let bare := ofEntries specifier (before ++ .withSuffix members suffix :: after) root
    slashed.specifier = bare.specifier ∧ slashed.options = bare.options :=
  ofEntriesFrom_alike (AliasEntry.alike_withSuffix single leading trailing members) before after 0
    []

/-- Three slashes before a suffix and two behind it leave the path below a root of two slashes. -/
theorem suffix_slashes_ignored_thrice :
    '\n' ∉ "lib//x".toList ∧
      (ofEntries "~".toList [.withSuffix [] (AliasEntry.slashed 3 "lib//x".toList 2)]
        "//p".toList).specifier = "//p/lib/x".toList ∧
      (AliasEntry.withSuffix [] (AliasEntry.slashed 3 "lib//x".toList 2)).suffix
        = "//lib//x/".toList := by
  have single : '\n' ∉ "lib//x".toList := by decide
  obtain ⟨same, -⟩ := suffix_slashes_ignored single 3 2 [] [] [] "~".toList "//p".toList
  exact ⟨single, same.trans (by decide +kernel), by decide⟩

end Application
end ImportResolution
