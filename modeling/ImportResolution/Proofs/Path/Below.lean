import ImportResolution.Proofs.Path.Descent
import Mathlib.Data.List.Infix

/-! Places below a directory. Names lead down from a directory one after the other, and segments
that never climb above their start lead to the directory itself or to a place below it, whatever
double dots are among them. The way up from such a place passes the directory. -/
namespace ImportResolution

namespace Path

variable {p q root path name ending : Text} {names segments stack base : List Text}

/-- The path to which names lead from a directory, one after the other. -/
def descend (root : Text) (names : List Text) : Text := names.foldl join root

/-- A path lies below a directory: one or more names lead down to it. -/
def Below (root path : Text) : Prop :=
  ∃ names, names ≠ [] ∧ (∀ name ∈ names, IsName name) ∧ path = descend root names

/-- A path is a directory or lies below it. -/
def Within (root path : Text) : Prop := path = root ∨ Below root path

/-- Segments that never climb above their start: at the beginning of the list, however far one goes,
stand no more double dots than other segments. -/
def NeverClimbs (segments : List Text) : Prop :=
  ∀ part, part <+: segments → part.count up ≤ part.countP (· ≠ up)

instance (segments : List Text) : Decidable (NeverClimbs segments) :=
  decidable_of_iff (∀ part ∈ segments.inits, part.count up ≤ part.countP (· ≠ up))
    (by simp [NeverClimbs, List.mem_inits])

/-! ### Names with endings -/

theorem isName_append (valid : IsName name) (whole : '/' ∉ ending) : IsName (name ++ ending) := by
  refine ⟨by simp [valid.nonempty], ?_, ?_, by simp [valid.no_slash, whole]⟩
  · intro same
    rcases List.append_eq_singleton_iff.mp same with ⟨empty, -⟩ | ⟨dot, -⟩
    · exact valid.nonempty empty
    · exact valid.not_here dot
  · intro same
    obtain ⟨c, rest, rfl⟩ := List.exists_cons_of_ne_nil valid.nonempty
    obtain ⟨rfl, behind⟩ : c = '.' ∧ rest ++ ending = ['.'] := by simpa [up] using same
    rcases List.append_eq_singleton_iff.mp behind with ⟨rfl, -⟩ | ⟨rfl, -⟩
    · exact valid.not_here rfl
    · exact valid.not_up rfl

theorem join_append (nonempty : q ≠ []) (p ending : Text) :
    join p q ++ ending = join p (q ++ ending) := by
  have same : isAbsolute (q ++ ending) = isAbsolute q := by
    obtain ⟨c, rest, rfl⟩ := List.exists_cons_of_ne_nil nonempty
    rfl
  unfold join
  rw [same]
  split
  · rfl
  · split <;> simp

/-! ### Going down -/

theorem descend_append (root : Text) (names more : List Text) :
    descend root (names ++ more) = descend (descend root names) more :=
  List.foldl_append ..

theorem descend_snoc (root : Text) (names : List Text) (name : Text) :
    descend root (names ++ [name]) = join (descend root names) name :=
  List.foldl_append ..

theorem below_of_within_below (within : Within p q) (below : Below q path) : Below p path := by
  obtain ⟨names, nonempty, valid, rfl⟩ := below
  rcases within with rfl | ⟨before, -, valid', rfl⟩
  · exact ⟨names, nonempty, valid, rfl⟩
  · refine ⟨before ++ names, by simp [nonempty], ?_, (descend_append ..).symm⟩
    exact List.forall_mem_append.mpr ⟨valid', valid⟩

theorem below_of_below_within (below : Below p q) (within : Within q path) : Below p path := by
  rcases within with rfl | further
  · exact below
  · exact below_of_within_below (.inr below) further

/-- One name leads from a directory, or from a place below it, to a place below it. -/
theorem below_join (within : Within root path) (valid : IsName name) :
    Below root (join path name) := by
  have step : Below path (join path name) := ⟨[name], by simp, by simpa using valid, rfl⟩
  exact below_of_within_below within step

/-- A place below a directory stays below it with an ending at its last name. -/
theorem below_append (below : Below root path) (whole : '/' ∉ ending) :
    Below root (path ++ ending) := by
  obtain ⟨names, nonempty, valid, rfl⟩ := below
  obtain ⟨front, last, rfl⟩ : ∃ front last, names = front ++ [last] :=
    ⟨_, _, (List.dropLast_append_getLast nonempty).symm⟩
  obtain ⟨validFront, validLast⟩ := List.forall_mem_append.mp valid
  have validLast : IsName last := validLast last (by simp)
  refine ⟨front ++ [last ++ ending], by simp, ?_, ?_⟩
  · refine List.forall_mem_append.mpr ⟨validFront, ?_⟩
    simpa using isName_append validLast whole
  · rw [descend_snoc, descend_snoc, join_append validLast.nonempty]

/-! ### Segments that never climb -/

/-- Double dots that never climb above their start leave what lies below it as it is. -/
theorem foldl_push_append (base : List Text) (plain : ∀ name ∈ stack, IsName name)
    (pieces : ∀ segment ∈ segments, segment ≠ [] ∧ segment ≠ here ∧ '/' ∉ segment)
    (level : ∀ part, part <+: segments →
      part.count up ≤ part.countP (· ≠ up) + stack.length) :
    segments.foldl (push true) (stack ++ base) = segments.foldl (push true) stack ++ base := by
  -- the height above the start is the length of the stack
  induction segments generalizing stack with
  | nil => rfl
  | cons segment segments ih =>
    obtain ⟨⟨nonempty, moves, whole⟩, rest⟩ := List.forall_mem_cons.mp pieces
    by_cases above : segment = up
    · subst above
      have high := level [up] (by simp)
      cases stack with
      | nil => simp at high
      | cons last stack =>
        obtain ⟨valid, plain⟩ := List.forall_mem_cons.mp plain
        have popped (others : List Text) : push true (last :: others) up = others := by
          simp [push, valid.not_up, nonempty, moves]
        simp only [List.foldl_cons, List.cons_append, popped]
        refine ih plain rest fun part start => ?_
        have := level (up :: part) (by simpa using start)
        simp at this ⊢
        omega
    · have valid : IsName segment := ⟨nonempty, moves, above, whole⟩
      simp only [List.foldl_cons, push_name valid, ← List.cons_append]
      refine ih (List.forall_mem_cons.mpr ⟨valid, plain⟩) rest fun part start => ?_
      have := level (segment :: part) (by simpa using start)
      simp [above] at this ⊢
      omega

/-- Behind names, segments that never climb remove none of them. -/
theorem reduce_append (plain : ∀ name ∈ names, IsName name)
    (pieces : ∀ segment ∈ segments, segment ≠ [] ∧ segment ≠ here ∧ '/' ∉ segment)
    (level : NeverClimbs segments) :
    reduce true (names ++ segments) = names ++ reduce true segments := by
  have kept : segments.foldl (push true) ([] ++ names.reverse)
      = segments.foldl (push true) [] ++ names.reverse :=
    foldl_push_append names.reverse nofun pieces (by simpa [NeverClimbs] using level)
  rw [List.nil_append] at kept
  simp [reduce, List.foldl_append, foldl_push_names true [] plain, kept]

end Path

namespace PlainPath

variable {p : PlainPath} {names : List Text} {s : Text}

/-- A normal absolute path consists of names. -/
theorem names_of_normal (absolute : Path.isAbsolute s = true) (normal : Path.normalize s = s) :
    ∀ name ∈ (ofText s).names, Path.IsName name := by
  have rooted : (ofText s).slashes ≠ 0 := Path.isAbsolute_iff_rootSlashes.mp absolute
  have settled := ofText_normalize absolute
  rw [normal] at settled
  rw [settled]
  exact settle_plain (proper_ofText s) rooted

theorem toText_of_normal (absolute : Path.isAbsolute s = true) (normal : Path.normalize s = s) :
    (ofText s).toText = s := by
  have written := normalize_eq s
  rw [settle_of_names (names_of_normal absolute normal), normal] at written
  exact written.symm

/-- A path of names below a root is written in its normal form. -/
theorem normalize_toText (few : p.slashes ≤ 2) (plain : ∀ name ∈ p.names, Path.IsName name) :
    Path.normalize p.toText = p.toText := by
  rw [normalize_eq, ofText_toText (proper_of_names few plain), settle_of_names plain]

/-- Going down appends names. -/
theorem descend_toText (rooted : p.slashes ≠ 0) (plain : ∀ name ∈ p.names, Path.IsName name)
    (valid : ∀ name ∈ names, Path.IsName name) :
    Path.descend p.toText names = ({ p with names := p.names ++ names } : PlainPath).toText := by
  induction names generalizing p with
  | nil => simp [Path.descend]
  | cons name names ih =>
    obtain ⟨first, others⟩ := List.forall_mem_cons.mp valid
    have step := ih (p := p.child name) rooted
      (List.forall_mem_append.mpr ⟨plain, by simpa using first⟩) others
    rw [← join_toText rooted plain first] at step
    simpa [Path.descend] using step

/-! ### Directories on the way up -/

variable {name : Text}

/-- A path as a normal absolute text writes it. -/
structure Normal (p : PlainPath) : Prop where
  rooted : p.slashes ≠ 0
  few : p.slashes ≤ 2
  plain : ∀ name ∈ p.names, Path.IsName name

theorem normal_ofText (absolute : Path.isAbsolute s = true) (normal : Path.normalize s = s) :
    (ofText s).Normal where
  rooted := Path.isAbsolute_iff_rootSlashes.mp absolute
  few := Path.rootSlashes_le s
  plain := names_of_normal absolute normal

theorem normal_child (normal : p.Normal) (valid : Path.IsName name) : (p.child name).Normal where
  rooted := normal.rooted
  few := normal.few
  plain := List.forall_mem_append.mpr ⟨normal.plain, by simpa using valid⟩

/-- Normal paths are told apart by their texts. -/
theorem eq_of_toText {q : PlainPath} (normal : p.Normal) (normal' : q.Normal)
    (same : p.toText = q.toText) : p = q := by
  rw [← ofText_toText (proper_of_names normal.few normal.plain), same,
    ofText_toText (proper_of_names normal'.few normal'.plain)]

/-- The path of a file in a directory. -/
theorem join_name (p : PlainPath) (valid : Path.IsName name) :
    p.join (ofText name) = p.child name := by
  have unrooted : (ofText name).slashes = 0 :=
    Path.rootSlashes_of_relative (Path.isAbsolute_name valid)
  simp [join, unrooted, names_of_name valid, child]

/-- The path that some names lead to from a directory. -/
def under (p : PlainPath) (names : List Text) : PlainPath := { p with names := p.names ++ names }

theorem normal_under {further : List Text} (normal : (p.under names).Normal)
    (part : further <+: names) : (p.under further).Normal where
  rooted := normal.rooted
  few := normal.few
  plain := by
    obtain ⟨rest, rfl⟩ := part
    intro name member
    refine normal.plain name ?_
    rcases List.mem_append.mp member with above | below
    · exact List.mem_append_left _ above
    · exact List.mem_append_right _ (List.mem_append_left _ below)

/-- The directories on the way up from a place below a directory: those below the directory, itself,
and those above it. -/
theorem way_up (p : PlainPath) (names : List Text) :
    ∃ nearer, p.under names :: (p.under names).parents = nearer ++ p :: p.parents ∧
      ∀ near ∈ nearer, ∃ further, further ≠ [] ∧ further <+: names ∧ near = p.under further := by
  induction names using List.reverseRecOn with
  | nil => exact ⟨[], by simp [under], by simp⟩
  | append_singleton names name ih =>
    obtain ⟨nearer, way, below⟩ := ih
    have step : p.under (names ++ [name]) = (p.under names).child name := by simp [under, child]
    refine ⟨p.under (names ++ [name]) :: nearer, ?_, ?_⟩
    · rw [step, parents_child, way, List.cons_append]
    · intro near member
      rcases List.mem_cons.mp member with rfl | member
      · exact ⟨_, by simp, List.prefix_refl _, rfl⟩
      · obtain ⟨further, some, part, rfl⟩ := below near member
        exact ⟨further, some, part.trans (List.prefix_append ..), rfl⟩

/-- Names lead from a directory down to any path that it is on the way to. -/
theorem exists_under {directory : PlainPath} (member : directory ∈ p :: p.parents) :
    ∃ names, p = directory.under names := by
  rcases List.mem_cons.mp member with rfl | above
  · exact ⟨[], by simp [under]⟩
  · obtain ⟨part, initial, rfl⟩ := List.mem_map.mp above
    obtain ⟨rest, joined⟩ := prefix_of_mem_initialParts initial
    exact ⟨rest, by simp [under, joined]⟩

/-- A file in a directory has another path than any file strictly below it. -/
theorem join_under_ne {further : List Text} {other : Text} (normal : p.Normal)
    (normal' : (p.under further).Normal) (below : further ≠ []) (valid : Path.IsName name)
    (valid' : Path.IsName other) :
    ((p.under further).join (ofText name)).toText ≠ (p.join (ofText other)).toText := by
  rw [join_name _ valid, join_name _ valid']
  intro same
  have paths := eq_of_toText (normal_child normal' valid) (normal_child normal valid') same
  have lengths := congrArg (fun path => path.names.length) paths
  have := List.length_pos_iff.mpr below
  simp only [names_child, under, List.length_append, List.length_singleton] at lengths
  omega

end PlainPath

namespace Path

variable {p q root path : Text} {names : List Text}

/-- What lies below a normal directory is normal. -/
theorem normalize_descend (absolute : isAbsolute root = true) (normal : normalize root = root)
    (valid : ∀ name ∈ names, IsName name) :
    normalize (descend root names) = descend root names := by
  have rooted : (PlainPath.ofText root).slashes ≠ 0 := isAbsolute_iff_rootSlashes.mp absolute
  have plain := PlainPath.names_of_normal absolute normal
  have written := PlainPath.descend_toText rooted plain valid
  rw [PlainPath.toText_of_normal absolute normal] at written
  rw [written]
  exact PlainPath.normalize_toText (rootSlashes_le root) (List.forall_mem_append.mpr ⟨plain, valid⟩)

/-- From a normal directory, a relative path that never climbs leads to the directory itself or to
a place below it. -/
theorem within_normalize_join (absolute : isAbsolute p = true) (normal : normalize p = p)
    (relative : isAbsolute q = false) (level : NeverClimbs (PlainPath.ofText q).names) :
    Within p (normalize (join p q)) := by
  have rooted : (PlainPath.ofText p).slashes ≠ 0 := isAbsolute_iff_rootSlashes.mp absolute
  have unrooted : (PlainPath.ofText q).slashes = 0 := rootSlashes_of_relative relative
  have plain := PlainPath.names_of_normal absolute normal
  have pieces := (PlainPath.proper_ofText q).pieces
  have valid : ∀ name ∈ reduce true (PlainPath.ofText q).names, IsName name :=
    reduce_rooted_plain fun name member => (pieces name member).2.2
  have written : normalize (join p q) = descend p (reduce true (PlainPath.ofText q).names) := by
    have down := PlainPath.descend_toText rooted plain valid
    rw [PlainPath.toText_of_normal absolute normal] at down
    rw [down, PlainPath.normalize_eq, PlainPath.ofText_join]
    simp only [PlainPath.join, unrooted, PlainPath.settle, rooted, ne_eq, not_true_eq_false,
      if_false, not_false_eq_true, decide_true, reduce_append plain pieces level]
  by_cases nowhere : reduce true (PlainPath.ofText q).names = []
  · exact .inl (by rw [written, nowhere]; rfl)
  · exact .inr ⟨_, nowhere, valid, written⟩

end Path
end ImportResolution
