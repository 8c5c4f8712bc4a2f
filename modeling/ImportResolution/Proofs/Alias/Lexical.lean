import ImportResolution.Proofs.Alias.Spelling

/-! What aliases make of a specifier, stated segment by segment. The first entry whose sign stands
at its start turns it into the path to which the segments of the root, of the suffix and of the rest
lead, one after the other, and the shapes that the text takes on the way there leave no trace. -/
namespace ImportResolution

/-- Where segments lead from the place of some names below a root, read from left to right. Empty
segments and single dots lead nowhere else, two dots lead back by one name, if there is one, and any
other segment leads one name further. -/
inductive Path.Leads : List Text → List Text → List Text → Prop where
  | arrived : Leads names [] names
  | stay {segment : Text} (trivial : segment = [] ∨ segment = here)
      (rest : Leads names segments last) : Leads names (segment :: segments) last
  | back (rest : Leads names.dropLast segments last) : Leads names (up :: segments) last
  | onward {segment : Text} (nonempty : segment ≠ []) (moves : segment ≠ here)
      (forward : segment ≠ up) (rest : Leads (names ++ [segment]) segments last) :
      Leads names (segment :: segments) last

/-- A sign stands at the start of a specifier: it is not empty, and it is the whole specifier or a
slash follows it. -/
def Signs (sign specifier : Text) : Prop :=
  sign ≠ [] ∧ (specifier = sign ∨ sign ++ ['/'] <+: specifier)

/-- The segments of a path that an entry makes: those of the root, of the suffix and of what stands
behind the sign. -/
def AliasEntry.way (entry : AliasEntry) (root specifier : Text) : List Text :=
  Text.segments root ++ Text.segments entry.suffix
    ++ Text.segments (specifier.drop entry.sign.length)

/-- What entries make of a specifier below a root. Where no sign stands at its start, it stays as it
is, and the options of the last entry are in force. Otherwise the first entry whose sign does
decides: it leads where its segments do, behind the slashes that the root has in normal form. -/
inductive Application.Rewrites (specifier root : Text) (entries : List AliasEntry) :
    Application → Prop where
  | passed (unsigned : ∀ entry ∈ entries, ¬ Signs entry.sign specifier) :
      Rewrites specifier root entries
        ⟨specifier, (entries.getLast?.map (·.options)).getD [], none⟩
  | first (order : entries = before ++ entry :: after)
      (unsigned : ∀ other ∈ before, ¬ Signs other.sign specifier)
      (signed : Signs entry.sign specifier)
      (leads : Path.Leads [] (entry.way root specifier) names) :
      Rewrites specifier root entries
        ⟨(Path.normalize root).takeWhile (· = '/') ++ Text.ofSegments names, entry.options,
          some (before.length, entry)⟩

namespace Path

variable {p : Text} {segments names last other : List Text}

/-- Segments lead to one place only. -/
theorem leads_unique (led : Leads names segments last) (again : Leads names segments other) :
    last = other := by
  induction led with
  | arrived =>
    cases again
    rfl
  | stay trivial rest ih =>
    cases again with
    | stay _ rest => exact ih rest
    | back rest => rcases trivial with empty | dot <;> contradiction
    | onward nonempty moves => rcases trivial with empty | dot <;> contradiction
  | back rest ih =>
    cases again with
    | stay trivial _ => rcases trivial with empty | dot <;> contradiction
    | back rest => exact ih rest
    | onward _ _ forward => exact absurd rfl forward
  | onward nonempty moves forward rest ih =>
    cases again with
    | stay trivial _ => rcases trivial with empty | dot <;> contradiction
    | back rest => exact absurd rfl forward
    | onward _ _ _ rest => exact ih rest

/-- Segments lead where pushing them one by one ends. -/
theorem leads_foldl (plain : ∀ name ∈ names, IsName name)
    (whole : ∀ segment ∈ segments, '/' ∉ segment) :
    Leads names segments (segments.foldl (push true) names.reverse).reverse := by
  induction segments generalizing names with
  | nil =>
    rw [List.foldl_nil, List.reverse_reverse]
    exact .arrived
  | cons segment segments ih =>
    obtain ⟨first, others⟩ := List.forall_mem_cons.mp whole
    by_cases trivial : segment = [] ∨ segment = here
    · rw [List.foldl_cons, push_trivial trivial]
      exact .stay trivial (ih plain others)
    by_cases above : segment = up
    · subst above
      have before := ih (fun name member => plain name (List.dropLast_subset names member)) others
      rw [List.foldl_cons, push_up_rooted (by simpa using plain), List.tail_reverse]
      exact .back before
    · obtain ⟨nonempty, moves⟩ := not_or.mp trivial
      have valid : IsName segment := ⟨nonempty, moves, above, first⟩
      have plainFurther : ∀ name ∈ names ++ [segment], IsName name :=
        List.forall_mem_append.mpr ⟨plain, by simpa using valid⟩
      have further := ih plainFurther others
      rw [List.reverse_append] at further
      rw [List.foldl_cons, push_name valid]
      exact .onward nonempty moves above further

/-- From the root, segments lead to what is left of them when double dots have taken names away. -/
theorem leads_iff_reduce (whole : ∀ segment ∈ segments, '/' ∉ segment) :
    Leads [] segments last ↔ reduce true segments = last := by
  have led : Leads [] segments (reduce true segments) := leads_foldl (by simp) whole
  constructor
  · exact leads_unique led
  · rintro rfl
    exact led

/-- The slashes at the start of a normal form are those of the root. -/
theorem takeWhile_normalize (absolute : isAbsolute p = true) :
    (normalize p).takeWhile (· = '/') = List.replicate (rootSlashes p) '/' := by
  have rooted : (PlainPath.ofText p).settle.slashes ≠ 0 := isAbsolute_iff_rootSlashes.mp absolute
  have proper := PlainPath.proper_settle (PlainPath.proper_ofText p) rooted
  rw [PlainPath.normalize_eq, PlainPath.toText_of_rooted rooted,
    List.takeWhile_append_of_pos (by simp),
    takeWhile_of_relative (PlainPath.isAbsolute_ofSegments proper), List.append_nil]
  rfl

end Path

variable {specifier sign root : Text} {entry : AliasEntry} {entries : List AliasEntry}
  {applied : Application} {names : List Text}

theorem hasSign_iff : hasSign specifier sign = true ↔ Signs sign specifier := by
  simp [hasSign, Signs]

namespace AliasEntry

theorem not_signs_iff : entry.applies specifier = false ↔ ¬ Signs entry.sign specifier := by
  rw [← hasSign_iff, Bool.not_eq_true]
  rfl

theorem leads_way_iff (entry : AliasEntry) (root specifier : Text) :
    Path.Leads [] (entry.way root specifier) names
      ↔ Path.reduce true (entry.way root specifier) = names := by
  apply Path.leads_iff_reduce
  intro segment member
  simp only [way, List.mem_append] at member
  rcases member with (member | member) | member <;> exact Text.no_slash_of_mem_segments member

/-- What an entry puts behind the root has the names of its way, before double dots take any
away. -/
theorem ofText_join_spelled (entry : AliasEntry) (root specifier : Text) :
    PlainPath.ofText (Path.join root (entry.spelled specifier))
      = ⟨Path.rootSlashes root, (entry.way root specifier).filter
          fun segment => segment ≠ [] ∧ segment ≠ Path.here⟩ := by
  have unrooted : (PlainPath.ofText (entry.spelled specifier)).slashes = 0 := rfl
  rw [PlainPath.ofText_join, PlainPath.join, if_neg (not_not_intro unrooted), names_spelled,
    ← List.append_assoc, way, List.filter_append, List.filter_append]
  rfl

/-- Below an absolute root an entry leads where the segments of its way do. -/
theorem anchored_of_leads (rooted : Path.isAbsolute root = true)
    (applies : entry.applies specifier = true)
    (leads : Path.Leads [] (entry.way root specifier) names) :
    entry.anchored root specifier
      = (Path.normalize root).takeWhile (· = '/') ++ Text.ofSegments names := by
  have slashes : Path.rootSlashes root ≠ 0 := Path.isAbsolute_iff_rootSlashes.mp rooted
  have led := (entry.leads_way_iff root specifier).mp leads
  have settled : (PlainPath.ofText (Path.join root (entry.spelled specifier))).settle
      = ⟨Path.rootSlashes root, names⟩ := by
    rw [ofText_join_spelled, PlainPath.settle, decide_eq_true slashes, Path.reduce_filter, led]
  rw [anchored_eq root applies, PlainPath.normalize_eq, settled,
    PlainPath.toText_of_rooted (p := ⟨Path.rootSlashes root, names⟩) slashes,
    Path.takeWhile_normalize rooted]

end AliasEntry

namespace Application

/-- Below an absolute root, what entries make of a specifier is what is stated segment by segment,
and nothing else is. -/
theorem ofEntries_eq_iff (rooted : Path.isAbsolute root = true) :
    ofEntries specifier entries root = applied ↔ Rewrites specifier root entries applied := by
  constructor
  · rintro rfl
    rcases passed_or_first specifier entries with
      unsigned | ⟨before, entry, after, rfl, unsigned, applies⟩
    · rw [ofEntries_of_passed unsigned]
      exact .passed fun entry member => AliasEntry.not_signs_iff.mp (unsigned entry member)
    · have leads := (entry.leads_way_iff root specifier).mpr rfl
      rw [ofEntries_of_first unsigned applies, AliasEntry.anchored_of_leads rooted applies leads]
      exact .first rfl (fun other member => AliasEntry.not_signs_iff.mp (unsigned other member))
        (hasSign_iff.mp applies) leads
  · intro rewrites
    cases rewrites with
    | passed unsigned =>
      exact ofEntries_of_passed fun entry member =>
        AliasEntry.not_signs_iff.mpr (unsigned entry member)
    | @first before entry after names order unsigned signed leads =>
      have applies : entry.applies specifier = true := hasSign_iff.mpr signed
      rw [order, ofEntries_of_first
        (fun other member => AliasEntry.not_signs_iff.mpr (unsigned other member)) applies,
        AliasEntry.anchored_of_leads rooted applies leads]

/-- An entry whose suffix is full of slashes and dots. -/
def dottedEntry : AliasEntry := ⟨"@".toList, "/x//./y/".toList, [("paths".toList, .null)]⟩

/-- An entry whose sign only starts like the one above. -/
def similarEntry : AliasEntry := ⟨"@a".toList, "lib".toList, []⟩

/-- The second entry decides, and the rest of the specifier climbs out of its suffix and of the
root, which keeps its two slashes. -/
theorem ofEntries_eq_iff_dotted :
    Path.isAbsolute "//p/./q".toList = true ∧
      ofEntries "@//../../../../../b".toList [similarEntry, dottedEntry] "//p/./q".toList
        = ⟨"//b".toList, [("paths".toList, .null)], some (1, dottedEntry)⟩ := by
  refine ⟨by decide, (ofEntries_eq_iff (by decide)).mpr ?_⟩
  have unsigned : ∀ other ∈ [similarEntry], ¬ Signs other.sign "@//../../../../../b".toList := by
    intro other member
    obtain rfl := List.mem_singleton.mp member
    exact AliasEntry.not_signs_iff.mp (by decide)
  have signed : Signs dottedEntry.sign "@//../../../../../b".toList := hasSign_iff.mp (by decide)
  have leads : Path.Leads [] (dottedEntry.way "//p/./q".toList "@//../../../../../b".toList)
      ["b".toList] :=
    (dottedEntry.leads_way_iff _ _).mpr (by decide +kernel)
  have text : (Path.normalize "//p/./q".toList).takeWhile (· = '/') ++ Text.ofSegments ["b".toList]
      = "//b".toList := by decide +kernel
  rw [← text]
  exact .first rfl unsigned signed leads

end Application
end ImportResolution
