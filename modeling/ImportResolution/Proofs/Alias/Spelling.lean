import ImportResolution.Proofs.Host.Root
import ImportResolution.Proofs.Module.Placed
import ImportResolution.Proofs.Path.Descent
import ImportResolution.Resolution

/-! Spellings of one target. An alias, a relative path from a file in the root and an absolute path
are three ways to write down the same place, and they lead there through the same search. -/
namespace ImportResolution

variable {h : Host} {entry : AliasEntry} {entries : List AliasEntry} {items : List Json}
  {specifier root fileName file name : Text} {root? : Option Text}

namespace AliasEntry

/-- The relative path from the root that an entry makes of a specifier: its suffix, and then all
that stands behind its sign. -/
def spelled (entry : AliasEntry) (specifier : Text) : Text :=
  '.' :: '/' :: (entry.suffix ++ '/' :: specifier.drop entry.sign.length)

theorem names_spelled (entry : AliasEntry) (specifier : Text) :
    (PlainPath.ofText (entry.spelled specifier)).names
      = (PlainPath.ofText entry.suffix).names
        ++ (PlainPath.ofText (specifier.drop entry.sign.length)).names := by
  rw [← PlainPath.names_append_slash]
  exact PlainPath.names_append_slash Path.here _

/-- Behind its sign a specifier has nothing or a slash. -/
theorem drop_sign (applies : entry.applies specifier = true) :
    specifier.drop entry.sign.length = [] ∨
      specifier.drop entry.sign.length = '/' :: specifier.drop (entry.sign.length + 1) := by
  simp only [AliasEntry.applies, hasSign, Bool.and_eq_true, Bool.or_eq_true, beq_iff_eq,
    List.isPrefixOf_iff_prefix] at applies
  rcases applies.2 with same | ⟨rest, rfl⟩
  · exact .inl (by simp [same])
  · refine .inr ?_
    rw [List.append_assoc, List.drop_left, ← List.drop_drop, List.drop_left]
    rfl

theorem names_afterSign (applies : entry.applies specifier = true) :
    (PlainPath.ofText (afterSign specifier entry.sign)).names
      = (PlainPath.ofText (specifier.drop entry.sign.length)).names := by
  rw [afterSign, PlainPath.names_dropSlashes]
  rcases drop_sign applies with nothing | slash
  · rw [← List.drop_drop, nothing]
    rfl
  · rw [slash, PlainPath.names_slash]

/-- Whichever parts are missing, the path below the root has the names of the suffix and those
behind the sign. -/
theorem names_rewrite (applies : entry.applies specifier = true) :
    (PlainPath.ofText (entry.rewrite specifier)).names
      = (PlainPath.ofText (entry.spelled specifier)).names := by
  have signed : hasSign specifier entry.sign = true := applies
  rw [names_spelled, ← names_afterSign applies]
  unfold rewrite belowRoot
  simp only [signed, Bool.not_true, Bool.false_eq_true, if_false]
  cases entry.suffix with
  | nil => cases afterSign specifier entry.sign <;> simp
  | cons c suffix =>
    cases afterSign specifier entry.sign with
    | nil => simp
    | cons d rest => simpa using PlainPath.names_append_slash (c :: suffix) (d :: rest)

theorem isAbsolute_dropSlashes (s : Text) : Path.isAbsolute (Text.dropSlashes s) = false := by
  induction s with
  | nil => rfl
  | cons c s ih =>
    by_cases slash : c = '/'
    · simpa [Text.dropSlashes, slash] using ih
    · simp [Text.dropSlashes, slash, Path.isAbsolute]

/-- The absolute path that an entry gives a specifier is the spelling seen from the root. -/
theorem anchored_eq (root : Text) (applies : entry.applies specifier = true) :
    entry.anchored root specifier = Path.normalize (Path.join root (entry.spelled specifier)) := by
  refine Path.normalize_join_congr root (isAbsolute_dropSlashes _) ?_ ?_
  · simp [spelled, Path.isAbsolute]
  · rw [PlainPath.names_dropSlashes, names_rewrite applies]

end AliasEntry

namespace Application

variable {before after : List AliasEntry}

/-- Entries that do not apply are passed over, and leave the options of the last of them. -/
theorem ofEntriesFrom_append (after : List AliasEntry) (index : Nat) (options : List (Text × Json))
    (unsigned : ∀ other ∈ before, other.applies specifier = false) :
    ofEntriesFrom specifier root index options (before ++ after)
      = ofEntriesFrom specifier root (index + before.length)
          ((before.getLast?.map (·.options)).getD options) after := by
  induction before generalizing index options with
  | nil => rfl
  | cons entry before ih =>
    obtain ⟨here, later⟩ := List.forall_mem_cons.mp unsigned
    have last : ((entry :: before).getLast?.map (·.options)).getD options
        = (before.getLast?.map (·.options)).getD entry.options := by
      cases before <;> simp [List.getLast?_cons]
    rw [List.cons_append, ofEntriesFrom, here, if_neg Bool.false_ne_true, ih _ _ later, last,
      List.length_cons, Nat.add_right_comm, Nat.add_assoc]

theorem ofEntries_of_passed (unsigned : ∀ entry ∈ entries, entry.applies specifier = false) :
    ofEntries specifier entries root
      = ⟨specifier, (entries.getLast?.map (·.options)).getD [], none⟩ := by
  rw [ofEntries, ← List.append_nil entries, ofEntriesFrom_append [] 0 [] unsigned, ofEntriesFrom,
    List.append_nil]

theorem ofEntries_of_first (unsigned : ∀ other ∈ before, other.applies specifier = false)
    (signed : entry.applies specifier = true) :
    ofEntries specifier (before ++ entry :: after) root
      = ⟨entry.anchored root specifier, entry.options, some (before.length, entry)⟩ := by
  rw [ofEntries, ofEntriesFrom_append _ _ _ unsigned, ofEntriesFrom, if_pos signed, Nat.zero_add]

/-- Either no entry applies, or one is the first that does. -/
theorem passed_or_first (specifier : Text) (entries : List AliasEntry) :
    (∀ entry ∈ entries, entry.applies specifier = false) ∨
      ∃ before entry after, entries = before ++ entry :: after ∧
        (∀ other ∈ before, other.applies specifier = false) ∧ entry.applies specifier = true := by
  cases found : entries.find? (·.applies specifier) with
  | none => exact .inl (by simpa using found)
  | some entry =>
    obtain ⟨applies, before, after, order, unsigned⟩ := List.find?_eq_some_iff_append.mp found
    exact .inr ⟨before, entry, after, order, by simpa using unsigned, by simpa using applies⟩

/-- The first entry that applies decides, whatever was passed over. -/
theorem ofEntriesFrom_of_find? (root : Text) (index : Nat) (options : List (Text × Json))
    (first : entries.find? (·.applies specifier) = some entry) :
    ∃ place, ofEntriesFrom specifier root index options entries
      = ⟨entry.anchored root specifier, entry.options, some (place, entry)⟩ := by
  obtain ⟨applies, before, after, rfl, passed⟩ := List.find?_eq_some_iff_append.mp first
  have unsigned : ∀ other ∈ before, other.applies specifier = false := by simpa using passed
  refine ⟨index + before.length, ?_⟩
  rw [ofEntriesFrom_append _ _ _ unsigned, ofEntriesFrom, if_pos applies]

end Application

namespace Request

/-- Under an entry that applies, a request is answered by loading the absolute path that the entry
gives. -/
theorem resolveUnder_of_find? (first : entries.find? (·.applies specifier) = some entry)
    (rooted : Path.isAbsolute root = true) (absolute : Path.isAbsolute file = true) :
    (resolveUnder h specifier file root entries).outcome
      = Module.loaded h entry.options .aliased
          (Path.normalize (Path.join root (entry.spelled specifier))) := by
  have applies : entry.applies specifier = true := by simpa using List.find?_some first
  obtain ⟨place, applied⟩ := Application.ofEntriesFrom_of_find? root 0 [] first
  have joined := Path.isAbsolute_join rooted (entry.spelled specifier)
  have placed : Path.isAbsolute (entry.anchored root specifier) = true := by
    rw [AliasEntry.anchored_eq root applies]
    exact Path.isAbsolute_normalize joined
  simp only [resolveUnder, Application.ofEntries, applied, Traced.outcome_bind,
    Traced.outcome_report, Except.bind, Module.resolve_absolute placed absolute]
  rw [AliasEntry.anchored_eq root applies, Path.normalize_normalize joined,
    ← Module.relabel_loaded .aliased .absolute]
  cases Module.loaded h entry.options .absolute
    (Path.normalize (Path.join root (entry.spelled specifier))) <;> rfl

/-- A request with listed entries is answered under them, with its root. -/
theorem resolve_listed (located : h.rootOf root? = .ok root) :
    resolve h ⟨specifier, file, .arr items, fileName, root?⟩
      = resolveUnder h specifier file root (AliasEntry.ofItems items) := by
  obtain ⟨start, started, rfl⟩ := Host.rootOf_ok located
  simp [resolve, started, ConfigurationKind.of, resolveConfigured, AliasEntry.ofConfiguration,
    AliasEntry.listed, Except.map]

/-- An alias, the relative path from a file in the root and the absolute path lead to one outcome,
up to the strategy; so it does not matter which file imports an aliased specifier. -/
theorem aliased_like_spelled (fileName file : Text) (hostRooted : h.Rooted)
    (located : h.rootOf root? = .ok root) (absolute : Path.isAbsolute file = true)
    (first : (AliasEntry.ofItems items).find? (·.applies specifier) = some entry) :
    (∀ name, Path.IsName name →
      (resolve h ⟨specifier, file, .arr items, fileName, root?⟩).outcome
        = (Module.resolve h (entry.spelled specifier) (Path.join root name)
            entry.options).outcome.map (Resolution.relabel .aliased)) ∧
    (∀ other, Path.isAbsolute other = true →
      (resolve h ⟨specifier, file, .arr items, fileName, root?⟩).outcome
        = (Module.resolve h (Path.normalize (Path.join root (entry.spelled specifier))) other
            entry.options).outcome.map (Resolution.relabel .aliased)) ∧
    (∀ other, Path.isAbsolute other = true →
      (resolve h ⟨specifier, file, .arr items, fileName, root?⟩).outcome
        = (resolve h ⟨specifier, other, .arr items, fileName, root?⟩).outcome) := by
  have rooted := Host.isAbsolute_rootOf hostRooted located
  have aliased : ∀ file, Path.isAbsolute file = true →
      (resolve h ⟨specifier, file, .arr items, fileName, root?⟩).outcome
        = Module.loaded h entry.options .aliased
            (Path.normalize (Path.join root (entry.spelled specifier))) := by
    intro file absolute
    rw [resolve_listed located, resolveUnder_of_find? first rooted absolute]
  refine ⟨?_, ?_, ?_⟩
  · intro name valid
    have inRoot := Path.isAbsolute_join rooted name
    have relative : Path.isAbsolute (entry.spelled specifier) = false := by
      simp [AliasEntry.spelled, Path.isAbsolute]
    rw [aliased file absolute, AliasEntry.spelled, Module.resolve_dotted _ inRoot,
      Module.relabel_loaded, Path.dirname_normalize_join rooted valid, ← AliasEntry.spelled,
      Path.normalize_join_normalize rooted relative]
  · intro other absolute'
    have joined := Path.isAbsolute_join rooted (entry.spelled specifier)
    rw [aliased file absolute, Module.resolve_absolute (Path.isAbsolute_normalize joined) absolute',
      Module.relabel_loaded, Path.normalize_normalize joined]
  · intro other absolute'
    rw [aliased file absolute, aliased other absolute']

/-- A project with one file in a directory for which a sign stands. -/
def signed : Host :=
  ⟨⟨[(Place.ofPath "/p/lib/b.js".toList, .file (.text [])),
    (Place.ofPath "/p/lib".toList, .directory),
    (Place.ofPath "/p".toList, .directory)]⟩, some "/".toList, .usual⟩

/-- The members of an entry whose suffix has more slashes than it needs. -/
def libraryMembers : List (Text × Json) :=
  [("rootPathPrefix".toList, .str "@".toList), ("rootPathSuffix".toList, .str "//lib/".toList)]

/-- Repeated slashes and two dots behind the sign disappear in all three spellings. -/
theorem aliased_like_spelled_library :
    signed.rootOf (some "/p/".toList) = .ok "/p".toList ∧
      (AliasEntry.ofMembers libraryMembers).spelled "@//a/../b".toList
        = ".//lib///a/../b".toList ∧
      (resolve signed ⟨"@//a/../b".toList, "/x.js".toList, .arr [.obj libraryMembers], [],
          some "/p/".toList⟩).outcome
        = (Module.resolve signed ".//lib///a/../b".toList "/p/main.js".toList []).outcome.map
          (Resolution.relabel .aliased) ∧
      (resolve signed ⟨"@//a/../b".toList, "/x.js".toList, .arr [.obj libraryMembers], [],
          some "/p/".toList⟩).outcome
        = .ok ⟨.file "/p/lib/b.js".toList, .aliased,
            ["/p/lib/b".toList, "/p/lib/b.mjs".toList, "/p/lib/b.js".toList]⟩ := by
  have hostRooted : signed.Rooted := by
    intro directory existing
    cases existing
    rfl
  have located : signed.rootOf (some "/p/".toList) = .ok "/p".toList := by decide +kernel
  have spelled : (AliasEntry.ofMembers libraryMembers).spelled "@//a/../b".toList
      = ".//lib///a/../b".toList := by decide +kernel
  have first : (AliasEntry.ofItems [.obj libraryMembers]).find? (·.applies "@//a/../b".toList)
      = some (AliasEntry.ofMembers libraryMembers) := by
    have applies : (AliasEntry.ofMembers libraryMembers).applies "@//a/../b".toList = true := by
      decide +kernel
    exact List.find?_cons_of_pos applies
  obtain ⟨relative, _, _⟩ := aliased_like_spelled [] "/x.js".toList hostRooted located rfl first
  refine ⟨located, spelled, ?_, ?_⟩
  · rw [← spelled]
    exact relative "main.js".toList ⟨by decide, by decide, by decide, by decide⟩
  · decide +kernel

end Request
end ImportResolution
