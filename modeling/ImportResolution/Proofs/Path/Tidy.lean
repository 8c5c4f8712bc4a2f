import ImportResolution.Proofs.Path.Below

/-! Paths that are in normal form without being normalized. The directories above a normal path are
normal, and so is what a tidy path, one that consists of names only, makes of a normal directory. -/
namespace ImportResolution

namespace PlainPath

variable {p : PlainPath}

theorem toText_root (rooted : p.slashes ≠ 0) (root : p.names = []) :
    p.toText = List.replicate p.slashes '/' := by
  simp [toText_of_rooted rooted, root]

/-- The root is its own directory. -/
theorem dirname_root (rooted : p.slashes ≠ 0) (root : p.names = []) :
    Path.dirname p.toText = p.toText := by
  have whole : Path.upToSlash p.toText = p.toText := by
    obtain ⟨slashes, more⟩ := Nat.exists_eq_succ_of_ne_zero rooted
    rw [toText_root rooted root, more, Path.upToSlash, List.reverse_replicate, List.replicate_succ,
      List.dropWhile_cons_of_neg (by simp), ← List.replicate_succ, List.reverse_replicate]
  have slashes : p.toText.all (· = '/') = true := by simp [toText_root rooted root]
  simp only [Path.dirname, whole, slashes, if_true]

/-- Going up from a path, one meets next what one meets from the path above it. -/
theorem ancestors_child {name : Text} (rooted : p.slashes ≠ 0)
    (plain : ∀ name ∈ p.names, Path.IsName name) (valid : Path.IsName name) :
    Path.ancestors (p.child name).toText = (p.child name).toText :: Path.ancestors p.toText := by
  have up := dirname_child rooted plain valid.no_slash
  have moves : Path.dirname (p.child name).toText ≠ (p.child name).toText := by
    intro same
    have lengths := congrArg List.length (up.symm.trans same)
    by_cases root : p.names = []
    · rw [toText_child_root rooted root, List.length_append] at lengths
      exact valid.nonempty (List.eq_nil_of_length_eq_zero (by omega))
    · rw [toText_child rooted root, List.length_append, List.length_cons] at lengths
      omega
  rw [Path.ancestors, if_neg moves, up]

/-- Going up from a path one meets the path and the directories above it, and nothing else. -/
theorem ancestors_toText (rooted : p.slashes ≠ 0) (plain : ∀ name ∈ p.names, Path.IsName name) :
    Path.ancestors p.toText = p.toText :: p.parents.map toText := by
  obtain ⟨slashes, names⟩ := p
  induction names using List.reverseRecOn with
  | nil =>
    rw [Path.ancestors, if_pos (dirname_root rooted rfl)]
    rfl
  | append_singleton names name ih =>
    obtain ⟨above, last⟩ := List.forall_mem_append.mp plain
    have valid : Path.IsName name := last name (List.mem_singleton_self name)
    have step := ancestors_child (p := ⟨slashes, names⟩) rooted above valid
    rw [ih rooted above, ← List.map_cons, ← parents_child] at step
    exact step

end PlainPath

namespace Path

variable {p q root name rest directory : Text}

/-- The directory of a path is among the directories that one meets on the way up. -/
theorem dirname_mem_ancestors (p : Text) : dirname p ∈ ancestors p := by
  have first (q : Text) : q ∈ ancestors q := by
    unfold ancestors
    split <;> simp
  by_cases last : dirname p = p
  · simpa [last] using first p
  · rw [ancestors, if_neg last]
    exact List.mem_cons_of_mem _ (first _)

/-- The directories above a normal path are normal. -/
theorem normalize_of_mem_ancestors (absolute : isAbsolute p = true) (normal : normalize p = p)
    (above : directory ∈ ancestors p) : normalize directory = directory := by
  have rooted : (PlainPath.ofText p).slashes ≠ 0 := isAbsolute_iff_rootSlashes.mp absolute
  have plain := PlainPath.names_of_normal absolute normal
  rw [← PlainPath.toText_of_normal absolute normal,
    PlainPath.ancestors_toText rooted plain] at above
  rcases List.mem_cons.mp above with rfl | above
  · exact PlainPath.normalize_toText (rootSlashes_le p) plain
  · obtain ⟨parent, member, rfl⟩ := List.mem_map.mp above
    obtain ⟨names, initial, rfl⟩ := List.mem_map.mp member
    refine PlainPath.normalize_toText (rootSlashes_le p) ?_
    intro name part
    exact plain name ((PlainPath.prefix_of_mem_initialParts initial).subset part)

/-- A path that consists of names, with single slashes between them. -/
def Tidy (p : Text) : Prop := ∀ segment ∈ Text.segments p, IsName segment

instance (p : Text) : Decidable (Tidy p) :=
  inferInstanceAs (Decidable (∀ segment ∈ Text.segments p, IsName segment))

/-- Joining the names of a path together, or one after the other, gives one path. -/
theorem join_names (valid : IsName name) (relative : isAbsolute rest = false) :
    join root (name ++ '/' :: rest) = join (join root name) rest := by
  have ended : (join root name).getLast? ≠ some '/' := by
    have last : (join root name).getLast? = name.getLast? := by
      have behind : name <:+ join root name := by
        unfold join
        rw [isAbsolute_name valid]
        split
        · contradiction
        · split
          · exact List.suffix_append _ _
          · exact (List.suffix_cons _ _).trans (List.suffix_append _ _)
      obtain ⟨front, whole⟩ := behind
      rw [← whole, List.getLast?_append, List.getLast?_eq_some_getLast valid.nonempty,
        Option.some_or]
    rw [last]
    intro slash
    exact valid.no_slash (List.mem_of_mem_getLast? slash)
  have nonempty : join root name ≠ [] := by
    unfold join
    rw [isAbsolute_name valid]
    split
    · contradiction
    · split <;> simp [valid.nonempty]
  rw [← join_append valid.nonempty]
  simp [join.eq_def (join root name) rest, relative, ended, nonempty]

/-- A tidy path leads down by its segments. -/
theorem join_tidy (tidy : Tidy q) : join root q = descend root (Text.segments q) := by
  have down (names : List Text) (some : names ≠ []) (valid : ∀ name ∈ names, IsName name) :
      join root (Text.ofSegments names) = descend root names := by
    induction names generalizing root with
    | nil => exact absurd rfl some
    | cons name names ih =>
      obtain ⟨first, others⟩ := List.forall_mem_cons.mp valid
      cases names with
      | nil => simp [Text.ofSegments, List.intercalate, List.intersperse, descend]
      | cons next names =>
        have proper : (⟨0, next :: names⟩ : PlainPath).Proper :=
          PlainPath.proper_of_names (by simp) others
        rw [Text.ofSegments_cons _ (by simp),
          join_names first (PlainPath.isAbsolute_ofSegments proper), ih (by simp) others]
        rfl
  have written := down (Text.segments q) (Text.segments_ne_nil q) tidy
  rwa [Text.ofSegments_segments] at written

/-- Below a normal directory a tidy path needs no normalizing. -/
theorem normalize_join_tidy (absolute : isAbsolute root = true) (normal : normalize root = root)
    (tidy : Tidy q) : normalize (join root q) = join root q := by
  rw [join_tidy tidy]
  exact normalize_descend absolute normal tidy

/-! ### The last name -/

theorem isAbsolute_of_tidy (tidy : Tidy q) : isAbsolute q = false := by
  have proper : (⟨0, Text.segments q⟩ : PlainPath).Proper :=
    PlainPath.proper_of_names (by simp) tidy
  have relative := PlainPath.isAbsolute_ofSegments proper
  rwa [Text.ofSegments_segments] at relative

theorem basename_of_segments {front : List Text} {last : Text}
    (written : Text.segments p = front ++ [last]) : basename p = last := by
  have whole : '/' ∉ last := Text.no_slash_of_mem_segments (s := p) (by simp [written])
  have text : p = Text.ofSegments (front ++ [last]) := by rw [← written, Text.ofSegments_segments]
  rw [text]
  by_cases single : front = []
  · have all := List.takeWhile_eq_self_iff.mpr (not_slash_of_mem_reverse whole)
    have one : Text.ofSegments [last] = last := by simp [Text.ofSegments]
    rw [single, List.nil_append, one, basename, all, List.reverse_reverse]
  · rw [Text.ofSegments_snoc single, basename_append whole]

/-- A slash behind a tidy path makes no difference to the place that it leads to. -/
theorem normalize_join_slash (root : Text) (tidy : Tidy q) :
    normalize (join root (q ++ ['/'])) = normalize (join root q) := by
  have relative := isAbsolute_of_tidy tidy
  have relative' : isAbsolute (q ++ ['/']) = false := by
    cases q with
    | nil => exact absurd rfl (tidy [] (by simp [Text.segments])).nonempty
    | cons c rest => simpa [isAbsolute] using relative
  refine normalize_join_congr root relative' relative ?_
  rw [PlainPath.names_append_slash, PlainPath.names_nil, List.append_nil]

/-- A tidy path leads from a normal directory to a place of its own last name. -/
theorem basename_normalize_join (absolute : isAbsolute root = true)
    (normal : normalize root = root) (tidy : Tidy q) :
    basename (normalize (join root q)) = basename q := by
  obtain ⟨front, last, cut⟩ : ∃ front last, Text.segments q = front ++ [last] :=
    ⟨_, _, (List.dropLast_append_getLast (Text.segments_ne_nil q)).symm⟩
  have valid : ∀ segment ∈ front ++ [last], IsName segment := by rwa [Tidy, cut] at tidy
  have whole := (valid last (by simp)).no_slash
  have normal' := PlainPath.normal_ofText absolute normal
  have down := PlainPath.descend_toText normal'.rooted normal'.plain valid
  rw [PlainPath.toText_of_normal absolute normal, ← List.append_assoc] at down
  have rooted : ((PlainPath.ofText root).under front).slashes ≠ 0 := normal'.rooted
  rw [normalize_join_tidy absolute normal tidy, join_tidy tidy, cut, down,
    basename_of_segments cut]
  exact PlainPath.basename_child rooted whole

end Path
end ImportResolution
