import ImportResolution.Proofs.Path.NormalForm
import Mathlib.Data.List.TakeWhile

/-! Going down and up by one name. The path one name below another one is written with the name at
its end, and taking the directory name, or the nearest of the directories above, undoes the step.
Whatever is above an absolute path is absolute. -/
namespace ImportResolution

namespace Path

variable {p name : Text}

theorem not_slash_of_mem_reverse (whole : '/' ∉ name) :
    ∀ c ∈ name.reverse, decide (c ≠ '/') = true := by
  intro c member
  have : c ≠ '/' := by rintro rfl; exact whole (List.mem_reverse.mp member)
  simpa using this

theorem upToSlash_append (whole : '/' ∉ name) : upToSlash (p ++ '/' :: name) = p ++ ['/'] := by
  rw [upToSlash, List.reverse_append, List.reverse_cons, List.append_assoc,
    List.dropWhile_append_of_pos (not_slash_of_mem_reverse whole)]
  simp

theorem basename_append (whole : '/' ∉ name) : basename (p ++ '/' :: name) = name := by
  rw [basename, List.reverse_append, List.reverse_cons, List.append_assoc,
    List.takeWhile_append_of_pos (not_slash_of_mem_reverse whole)]
  simp

theorem dropTrailingSlashes_append (ended : p.getLast? ≠ some '/') :
    Text.dropTrailingSlashes (p ++ ['/']) = p := by
  have kept : p.reverse.dropWhile (· = '/') = p.reverse := by
    rw [← List.head?_reverse] at ended
    cases held : p.reverse with
    | nil => rfl
    | cons c rest =>
      have : c ≠ '/' := by rintro rfl; simp [held] at ended
      simp [this]
  simp [Text.dropTrailingSlashes, kept]

theorem dirname_append (nonempty : p ≠ []) (ended : p.getLast? ≠ some '/') (whole : '/' ∉ name) :
    dirname (p ++ '/' :: name) = p := by
  have other : (p ++ ['/']).all (· = '/') = false := by
    rw [List.getLast?_eq_some_getLast nonempty] at ended
    have differs : p.getLast nonempty ≠ '/' := fun same => ended (congrArg some same)
    rw [List.all_append, Bool.and_eq_false_iff]
    exact .inl (List.all_eq_false.mpr ⟨_, List.getLast_mem nonempty, by simpa using differs⟩)
  rw [dirname]
  simp only [upToSlash_append whole, other, Bool.false_eq_true, if_false]
  exact dropTrailingSlashes_append ended

end Path

namespace PlainPath

variable {p : PlainPath} {name : Text}

/-- The path one name below another one. -/
def child (p : PlainPath) (name : Text) : PlainPath := { p with names := p.names ++ [name] }

@[simp] theorem slashes_child : (p.child name).slashes = p.slashes := rfl

@[simp] theorem names_child : (p.child name).names = p.names ++ [name] := rfl

/-- Nothing but the root ends in a slash. -/
theorem getLast?_toText (rooted : p.slashes ≠ 0) (plain : ∀ name ∈ p.names, Path.IsName name)
    (below : p.names ≠ []) : p.toText.getLast? ≠ some '/' := by
  have valid := plain _ (List.getLast_mem below)
  obtain ⟨front, written⟩ : ∃ front, p.toText = front ++ p.names.getLast below := by
    obtain ⟨front, written⟩ := Text.suffix_ofSegments below
    exact ⟨List.replicate p.slashes '/' ++ front, by
      rw [toText_of_rooted rooted, ← written, List.append_assoc]⟩
  rw [written, List.getLast?_append, List.getLast?_eq_some_getLast valid.nonempty, Option.some_or]
  intro slash
  have member := List.getLast_mem valid.nonempty
  rw [Option.some.inj slash] at member
  exact valid.no_slash member

theorem toText_child (rooted : p.slashes ≠ 0) (below : p.names ≠ []) :
    (p.child name).toText = p.toText ++ '/' :: name := by
  rw [toText_of_rooted (by simpa using rooted), toText_of_rooted rooted, names_child,
    Text.ofSegments_snoc below, slashes_child, List.append_assoc]

theorem toText_child_root (rooted : p.slashes ≠ 0) (root : p.names = []) :
    (p.child name).toText = p.toText ++ name := by
  rw [toText_of_rooted (by simpa using rooted), toText_of_rooted rooted, names_child, root]
  simp [Text.ofSegments, List.intercalate, List.intersperse]

theorem settle_child (rooted : p.slashes ≠ 0) (valid : Path.IsName name) :
    (p.child name).settle = p.settle.child name := by
  simp [settle, child, rooted, Path.reduce, Path.push_name valid]

/-- Joining a name to the text of a path below a root leads one name down. -/
theorem join_toText (rooted : p.slashes ≠ 0) (plain : ∀ name ∈ p.names, Path.IsName name)
    (valid : Path.IsName name) : Path.join p.toText name = (p.child name).toText := by
  have relative := Path.isAbsolute_name valid
  by_cases below : p.names = []
  · rw [toText_child_root rooted below]
    have ended : p.toText.getLast? = some '/' := by
      rw [toText_of_rooted rooted, below]
      simp [rooted, List.getLast?_replicate]
    simp [Path.join, relative, ended]
  · rw [toText_child rooted below]
    have open_ := getLast?_toText rooted plain below
    have : p.toText ≠ [] := by rw [toText_of_rooted rooted]; simp [rooted]
    simp [Path.join, relative, open_, this]

/-- A path below another one starts with it. -/
theorem toText_prefix_child (rooted : p.slashes ≠ 0) : p.toText <+: (p.child name).toText := by
  by_cases below : p.names = []
  · rw [toText_child_root rooted below]
    exact List.prefix_append _ _
  · rw [toText_child rooted below]
    exact List.prefix_append _ _

/-- The text of a path below another one ends in a slash and its name. -/
theorem exists_toText_child (rooted : p.slashes ≠ 0) (name : Text) :
    ∃ front, (p.child name).toText = front ++ '/' :: name := by
  by_cases below : p.names = []
  · obtain ⟨slashes, more⟩ := Nat.exists_eq_succ_of_ne_zero rooted
    refine ⟨List.replicate slashes '/', ?_⟩
    rw [toText_child_root rooted below, toText_of_rooted rooted, below, more,
      List.replicate_succ']
    simp
  · exact ⟨p.toText, toText_child rooted below⟩

theorem basename_child (rooted : p.slashes ≠ 0) (whole : '/' ∉ name) :
    Path.basename (p.child name).toText = name := by
  obtain ⟨front, written⟩ := exists_toText_child rooted name
  rw [written, Path.basename_append whole]

/-- The directory of a path is the path without its last name. -/
theorem dirname_child (rooted : p.slashes ≠ 0) (plain : ∀ name ∈ p.names, Path.IsName name)
    (whole : '/' ∉ name) : Path.dirname (p.child name).toText = p.toText := by
  by_cases below : p.names = []
  · obtain ⟨slashes, more⟩ := Nat.exists_eq_succ_of_ne_zero rooted
    have root : p.toText = List.replicate slashes '/' ++ ['/'] := by
      rw [toText_of_rooted rooted, below, more, List.replicate_succ']
      simp
    have up : Path.upToSlash (p.child name).toText = p.toText := by
      rw [toText_child_root rooted below, root, List.append_assoc]
      exact Path.upToSlash_append whole
    simp [Path.dirname, up, root]
  · have nonempty : p.toText ≠ [] := by rw [toText_of_rooted rooted]; simp [rooted]
    rw [toText_child rooted below]
    exact Path.dirname_append nonempty (getLast?_toText rooted plain below) whole

theorem toText_ne_nil (p : PlainPath) : p.toText ≠ [] := by
  unfold toText
  simp only
  split
  · decide
  · rename_i nonempty
    simpa using nonempty

theorem prefix_of_mem_initialParts {names part : List Text} (initial : part ∈ initialParts names) :
    part <+: names := by
  induction names generalizing part with
  | nil => cases initial
  | cons first names ih =>
    rcases List.mem_append.mp initial with longer | empty
    · obtain ⟨shorter, before, rfl⟩ := List.mem_map.mp longer
      exact List.cons_prefix_cons.mpr ⟨rfl, ih before⟩
    · rw [List.mem_singleton.mp empty]
      exact List.nil_prefix

theorem proper_of_mem_parents {q : PlainPath} (proper : p.Proper) (above : q ∈ p.parents) :
    q.Proper := by
  obtain ⟨names, initial, rfl⟩ := List.mem_map.mp above
  refine ⟨proper.few, ?_⟩
  intro name member
  exact proper.pieces name ((prefix_of_mem_initialParts initial).subset member)

theorem initialParts_snoc (names : List Text) (name : Text) :
    initialParts (names ++ [name]) = names :: initialParts names := by
  induction names with
  | nil => rfl
  | cons first names ih => simp [initialParts, ih]

/-- The directories above a path one name further down are the path and those above it. -/
theorem parents_child (p : PlainPath) (name : Text) : (p.child name).parents = p :: p.parents := by
  rw [parents, names_child, initialParts_snoc, List.map_cons, parents]
  rfl

end PlainPath

namespace Path

variable {p q : Text}

/-! ### Directories of absolute paths -/

theorem isAbsolute_of_prefix (start : q <+: p) (nonempty : q ≠ [])
    (absolute : isAbsolute p = true) : isAbsolute q = true := by
  obtain ⟨rest, rfl⟩ := start
  cases q with
  | nil => exact absurd rfl nonempty
  | cons c q => simpa [isAbsolute] using absolute

theorem isAbsolute_append (absolute : isAbsolute p = true) (q : Text) :
    isAbsolute (p ++ q) = true := by
  cases p with
  | nil => cases absolute
  | cons c p => simpa [isAbsolute] using absolute

theorem start_upToSlash (p : Text) : upToSlash p <+: p := by
  have := List.reverse_prefix.mpr (List.dropWhile_suffix (l := p.reverse) (· ≠ '/'))
  simpa [upToSlash] using this

theorem start_dropTrailingSlashes (p : Text) : Text.dropTrailingSlashes p <+: p := by
  have := List.reverse_prefix.mpr (List.dropWhile_suffix (l := p.reverse) (· = '/'))
  simpa [Text.dropTrailingSlashes] using this

/-- The directory name of an absolute path is absolute. -/
theorem isAbsolute_dirname (absolute : isAbsolute p = true) : isAbsolute (dirname p) = true := by
  have slash : '/' ∈ p := List.mem_of_mem_head? (by simpa [isAbsolute] using absolute)
  have before : isAbsolute (upToSlash p) = true := by
    refine isAbsolute_of_prefix (start_upToSlash p) ?_ absolute
    intro empty
    have only : ∀ c ∈ p, c ≠ '/' := by
      simpa [upToSlash, List.dropWhile_eq_nil_iff] using empty
    exact only '/' slash rfl
  unfold dirname
  simp only
  split
  · exact before
  · rename_i other
    refine isAbsolute_of_prefix (start_dropTrailingSlashes _) ?_ before
    intro empty
    exact other (by simpa [Text.dropTrailingSlashes, List.dropWhile_eq_nil_iff] using empty)

/-- All directories above an absolute path are absolute. -/
theorem isAbsolute_ancestors (absolute : isAbsolute p = true) :
    ∀ directory ∈ ancestors p, isAbsolute directory = true := by
  induction p using ancestors.induct with
  | case1 p last =>
    unfold ancestors
    simpa [last] using absolute
  | case2 p more ih =>
    unfold ancestors
    simpa [more, absolute] using ih (isAbsolute_dirname absolute)

/-- The directory of a file with a plain name is the directory in normal form. -/
theorem dirname_normalize_join {name : Text} (absolute : isAbsolute p = true)
    (valid : IsName name) : dirname (normalize (join p name)) = normalize p := by
  have rooted : (PlainPath.ofText p).slashes ≠ 0 := isAbsolute_iff_rootSlashes.mp absolute
  have plain := PlainPath.settle_plain (PlainPath.proper_ofText p) rooted
  have joined : PlainPath.ofText (join p name) = (PlainPath.ofText p).child name := by
    have unrooted : (PlainPath.ofText name).slashes = 0 :=
      rootSlashes_of_relative (isAbsolute_name valid)
    rw [PlainPath.ofText_join, PlainPath.join, if_neg (not_not_intro unrooted),
      PlainPath.names_of_name valid, PlainPath.child]
  rw [PlainPath.normalize_eq, joined, PlainPath.settle_child rooted valid,
    PlainPath.dirname_child (p := (PlainPath.ofText p).settle) rooted plain valid.no_slash,
    PlainPath.normalize_eq]

end Path
end ImportResolution
