import ImportResolution.Proofs.Host.NullFree
import ImportResolution.Proofs.Path.Ascent

/-! Relative directories. What a relative path resolves to, before it is made absolute, climbs for a
while and then goes down along names, none of which belongs to a link as far as one can look them
up. From a working directory under its canonical form it leads to a path that is canonical as well,
unless it is too long to be looked up. -/
namespace ImportResolution

variable {p : PlainPath} {name : Text} {names pieces : List Text} {rise : Nat}

theorem Text.subset_ofSegments {piece : Text} (member : piece ∈ pieces) :
    piece ⊆ ofSegments pieces := by
  induction pieces with
  | nil => cases member
  | cons first others ih =>
    by_cases last : others = []
    · subst last
      obtain rfl := List.mem_singleton.mp member
      simp [ofSegments]
    · rw [ofSegments_cons first last]
      rcases List.mem_cons.mp member with rfl | member
      · exact List.subset_append_left ..
      · intro c held
        exact List.mem_append_right _ (List.mem_cons_of_mem _ (ih member held))

namespace Path

/-! ### Paths that climb first -/

/-- The relative path that climbs some directories and then goes down along names. -/
def aside (rise : Nat) (names : List Text) : Text :=
  Text.ofSegments (List.replicate rise up ++ names)

theorem proper_aside (rise : Nat) (plain : ∀ name ∈ names, IsName name) :
    (⟨0, List.replicate rise up ++ names⟩ : PlainPath).Proper := by
  refine ⟨Nat.zero_le _, List.forall_mem_append.mpr ⟨?_, ?_⟩⟩
  · intro piece member
    rw [List.eq_of_mem_replicate member]
    decide
  · intro piece member
    have valid := plain piece member
    exact ⟨valid.nonempty, valid.not_here, valid.no_slash⟩

/-- The text of some pieces does not end in a slash. -/
theorem open_ofSegments (proper : (⟨0, pieces⟩ : PlainPath).Proper) (some : pieces ≠ []) :
    Text.ofSegments pieces ≠ [] ∧ (Text.ofSegments pieces).getLast? ≠ .some '/' := by
  obtain ⟨nonempty, -, whole⟩ := proper.pieces _ (List.getLast_mem some)
  obtain ⟨front, written⟩ := Text.suffix_ofSegments some
  rw [← written]
  refine ⟨by simp [nonempty], ?_⟩
  rw [List.getLast?_append, List.getLast?_eq_some_getLast nonempty, Option.some_or]
  intro slash
  have member := List.getLast_mem nonempty
  rw [Option.some.inj slash] at member
  exact whole member

theorem join_ofSegments (proper : (⟨0, pieces⟩ : PlainPath).Proper)
    (relative : isAbsolute name = false) :
    join (Text.ofSegments pieces) name = Text.ofSegments (pieces ++ [name]) := by
  by_cases none : pieces = []
  · simp [none, join, relative, Text.ofSegments]
  · obtain ⟨nonempty, ended⟩ := open_ofSegments proper none
    rw [Text.ofSegments_snoc none]
    simp [join, relative, nonempty, ended]

theorem dirname_ofSegments (proper : (⟨0, pieces⟩ : PlainPath).Proper) (whole : '/' ∉ name) :
    dirname (Text.ofSegments (pieces ++ [name])) = Text.ofSegments pieces := by
  by_cases none : pieces = []
  · have nothing : upToSlash name = [] := by
      rw [upToSlash, List.dropWhile_eq_nil_iff.mpr (not_slash_of_mem_reverse whole),
        List.reverse_nil]
    simp [none, Text.ofSegments, dirname, nothing]
  · obtain ⟨nonempty, ended⟩ := open_ofSegments proper none
    rw [Text.ofSegments_snoc none, dirname_append nonempty ended whole]

theorem basename_ofSegments (proper : (⟨0, pieces⟩ : PlainPath).Proper) (whole : '/' ∉ name) :
    basename (Text.ofSegments (pieces ++ [name])) = name := by
  refine basename_of_segments (Text.segments_ofSegments (by simp) ?_)
  refine List.forall_mem_append.mpr ⟨fun piece member => (proper.pieces piece member).2.2, ?_⟩
  simpa using whole

theorem aside_snoc (rise : Nat) (names : List Text) (name : Text) :
    aside rise (names ++ [name]) = Text.ofSegments (List.replicate rise up ++ names ++ [name]) := by
  rw [aside, List.append_assoc]

/-- A path that climbs first is part of the one that goes down one name further. -/
theorem aside_prefix_snoc (rise : Nat) (names : List Text) (name : Text) :
    aside rise names <+: aside rise (names ++ [name]) := by
  rw [aside_snoc, aside]
  by_cases none : List.replicate rise up ++ names = []
  · rw [none]
    exact List.nil_prefix
  · rw [Text.ofSegments_snoc none]
    exact List.prefix_append ..

/-- Two dots remove one of the names before them each, as long as there is one. -/
theorem foldl_push_ups {stack : List Text} (rise : Nat) (plain : ∀ name ∈ stack, IsName name) :
    (List.replicate rise up).foldl (push true) stack = stack.drop rise := by
  induction rise generalizing stack with
  | zero => rfl
  | succ rise ih =>
    rw [List.replicate_succ, List.foldl_cons, push_up_rooted plain,
      ih fun name member => plain name (List.mem_of_mem_tail member), List.drop_tail]

end Path

namespace PlainPath

/-- The directory that a climb from a path comes to. -/
def climb (p : PlainPath) (rise : Nat) : PlainPath := p.upTo (p.names.length - rise)

theorem reverse_climb (p : PlainPath) (rise : Nat) :
    (p.climb rise).names.reverse = p.names.reverse.drop rise :=
  List.drop_reverse.symm

theorem exists_under_climb (p : PlainPath) (rise : Nat) :
    ∃ lower, p = (p.climb rise).under lower :=
  ⟨p.names.drop (p.names.length - rise), by simp [climb, upTo, under, List.take_append_drop]⟩

/-- Below a root, double dots behind names are the climb that they stand for. -/
theorem reduce_climb (rise : Nat) (plain : ∀ name ∈ p.names, Path.IsName name)
    (plain' : ∀ name ∈ names, Path.IsName name) :
    Path.reduce true (p.names ++ (List.replicate rise Path.up ++ names))
      = (p.climb rise).names ++ names := by
  have stacked : ∀ name ∈ p.names.reverse, Path.IsName name := fun name member =>
    plain name (List.mem_reverse.mp member)
  rw [Path.reduce, List.foldl_append, List.foldl_append, Path.foldl_push_names true [] plain,
    List.append_nil, Path.foldl_push_ups rise stacked, Path.foldl_push_names true _ plain',
    List.reverse_append, List.reverse_reverse, ← reverse_climb, List.reverse_reverse]

end PlainPath

namespace Canonical

open ImportResolution.Path (aside)

variable {target? : Text → Option Text} {path : Text}

theorem parent_aside_nil (rise : Nat) : parent (aside rise []) = aside (rise + 1) [] := by
  have proper (rise : Nat) : (⟨0, List.replicate rise Path.up⟩ : PlainPath).Proper := by
    simpa using @Path.proper_aside [] rise nofun
  cases rise with
  | zero => rfl
  | succ rise =>
    have climbs := proper (rise + 1)
    rw [List.replicate_succ'] at climbs
    have nonempty := (Path.open_ofSegments climbs (by simp)).1
    have relative : Path.isAbsolute Path.up = false := rfl
    simp only [aside, List.append_nil]
    rw [List.replicate_succ' (n := rise + 1), List.replicate_succ', parent, if_neg nonempty,
      Path.basename_ofSegments (proper rise) (by decide), if_pos rfl,
      Path.dirname_ofSegments (proper rise) (by decide),
      Path.join_ofSegments (proper rise) relative, Path.join_ofSegments climbs relative]

theorem parent_aside_snoc (rise : Nat) (plain : ∀ name ∈ names, Path.IsName name)
    (valid : Path.IsName name) : parent (aside rise (names ++ [name])) = aside rise names := by
  have proper := Path.proper_aside rise plain
  have further : ∀ piece ∈ names ++ [name], Path.IsName piece :=
    List.forall_mem_append.mpr ⟨plain, by simpa using valid⟩
  have nonempty := (Path.open_ofSegments (Path.proper_aside rise further) (by simp)).1
  rw [← List.append_assoc] at nonempty
  rw [Path.aside_snoc, parent, if_neg nonempty, Path.basename_ofSegments proper valid.no_slash,
    if_neg valid.not_up, Path.dirname_ofSegments proper valid.no_slash, aside]

/-- Names to go down along, after a climb, of which none belongs to a link. -/
inductive LinkFreeAside (target? : Text → Option Text) (rise : Nat) : List Text → Prop where
  | nil : LinkFreeAside target? rise []
  | snoc {names : List Text} {name : Text} (above : LinkFreeAside target? rise names)
      (valid : Path.IsName name) (plain : target? (aside rise (names ++ [name])) = none) :
      LinkFreeAside target? rise (names ++ [name])

theorem names_of_linkFreeAside (free : LinkFreeAside target? rise names) :
    ∀ name ∈ names, Path.IsName name := by
  induction free with
  | nil => exact nofun
  | snoc above valid plain ih => exact List.forall_mem_append.mpr ⟨ih, by simpa using valid⟩

/-- A text that writes a link-free path, be it from the root or after a climb. -/
def SettledAnywhere (target? : Text → Option Text) (path : Text) : Prop :=
  Settled target? path ∨
    ∃ rise names, LinkFreeAside target? rise names ∧ path = aside rise names

/-- Without a loop a resolution stays on link-free paths, wherever it starts. -/
theorem invariant_settledAnywhere : Invariant target? (SettledAnywhere target?) (fun _ => True) where
  root := .inl settled_root
  parent := by
    rintro path (settled | ⟨rise, names, free, rfl⟩)
    · exact .inl (settled_parent settled)
    · cases free with
      | nil => exact .inr ⟨rise + 1, [], .nil, parent_aside_nil rise⟩
      | snoc above valid plain =>
        exact .inr ⟨rise, _, above, parent_aside_snoc rise (names_of_linkFreeAside above) valid⟩
  join := by
    rintro path name (settled | ⟨rise, names, free, rfl⟩) valid - plain
    · exact .inl (settled_join settled valid plain)
    · have proper := Path.proper_aside rise (names_of_linkFreeAside free)
      have joined : Path.join (aside rise names) name = aside rise (names ++ [name]) := by
        rw [aside, Path.join_ofSegments proper (Path.isAbsolute_name valid), Path.aside_snoc]
      rw [joined] at plain ⊢
      exact .inr ⟨rise, _, .snoc free valid plain, rfl⟩
  target _ _ _ := trivial

end Canonical

namespace FileTree

variable {t : FileTree} {follow : Bool} {here place : Place} {node : Node} {components : List Text}

/-- From directories one climbs by two dots each. -/
theorem run_climb (rise : Nat) (rest : List Text)
    (directories : ∀ above, above <:+ here → t.node? above = some .directory) :
    t.run follow here (List.replicate rise Path.up ++ rest) = t.run follow (here.drop rise) rest := by
  induction rise generalizing here with
  | zero => rfl
  | succ rise ih =>
    have moves : ¬ (Path.up = [] ∨ Path.up = Path.here) := by decide
    have first := directories here (List.suffix_refl _)
    have climbed := ih fun above part => directories above (part.trans (List.tail_suffix here))
    rw [List.replicate_succ, List.cons_append, run]
    simp only [first, Node.isDirectory, Bool.not_true, Bool.false_eq_true, if_false, if_neg moves,
      if_true, climbed, List.drop_tail]

theorem walk_eq_of_run {here' : Place} {components' : List Text}
    (same : t.run follow here' components' = t.run follow here components) (links : Nat) :
    t.walk follow links here' components' = t.walk follow links here components := by
  unfold walk
  rw [same]

/-- A walk to a directory starts at one. -/
theorem directory_of_walk {links : Nat}
    (found : t.walk follow links here components = .ok (place, node))
    (directory : node.isDirectory = true) : t.node? here = some .directory := by
  cases held : t.node? here with
  | none =>
    rw [walk_of_failed (run_at_none held follow components)] at found
    cases found
  | some other =>
    cases kind : other.isDirectory with
    | true =>
      cases other with
      | directory => rfl
      | _ => cases kind
    | false =>
      unfold walk at found
      rw [run_at_closed held kind] at found
      by_cases last : components = []
      · rw [if_pos last] at found
        cases found
        cases kind.symm.trans directory
      · rw [if_neg last] at found
        cases found

end FileTree

namespace Host

open Canonical
open ImportResolution.Path (aside)

variable {h : Host} {lower : List Text} {start directory : Text} {start? : Option Text}

/-! ### The working directory -/

/-- The working directory, if there is one, is a directory, under its canonical form. -/
def Situated (h : Host) : Prop :=
  ∀ cwd, h.directory? = some cwd →
    h.canonical cwd = .ok cwd ∧ h.Loopless cwd ∧ h.isDirectory cwd = true

instance (h : Host) : Decidable h.Situated :=
  inferInstanceAs (Decidable (∀ cwd, h.directory? = some cwd → _))

theorem linkFree_of_under (free : LinkFree h.linkTarget? (p.under lower)) :
    LinkFree h.linkTarget? p ∧ p.toText <+: (p.under lower).toText := by
  obtain ⟨nearer, way, -⟩ := PlainPath.way_up p lower
  have member : p ∈ p.under lower :: (p.under lower).parents := by simp [way]
  rcases List.mem_cons.mp member with same | above
  · rw [← same] at free ⊢
    exact ⟨free, List.prefix_refl _⟩
  · exact linkFree_of_mem_parents free above

/-- From the root one comes to every directory above a link-free one, and it is a directory. -/
theorem run_above (free : LinkFree h.linkTarget? (p.under lower))
    (held : h.isDirectory (p.under lower).toText = true) :
    (∀ follow rest,
      h.tree.run follow [] (p.names ++ rest) = h.tree.run follow p.names.reverse rest) ∧
    h.tree.node? p.names.reverse = some .directory := by
  obtain ⟨above, part⟩ := linkFree_of_under free
  unfold isDirectory at held
  split at held
  · rename_i place node found
    have admitted := admits_of_found found
    have absolute := PlainPath.isAbsolute_toText (rooted_of_linkFree free)
    rw [lookup_of_admits true admitted absolute] at found
    rcases run_linkFree above (admits_of_start admitted part) with reached | ⟨fault, -, failed⟩
    · have same : h.tree.run true [] (Text.segments (p.under lower).toText)
          = h.tree.run true p.names.reverse lower := by
        rw [run_segments h.tree free]
        exact reached true lower
      rw [FileTree.walk_eq_of_run same] at found
      exact ⟨reached, FileTree.directory_of_walk found held⟩
    · have failed : h.tree.run true [] (Text.segments (p.under lower).toText) = .failed fault := by
        rw [run_segments h.tree free]
        exact failed true lower
      rw [FileTree.walk_of_failed failed] at found
      cases found
  · cases held

theorem place_of_linkFree (free : LinkFree h.linkTarget? p) :
    Place.ofPath p.toText = p.names.reverse := by
  have names := PlainPath.ofText_toText (proper_of_linkFree free)
  have reduced : Path.reduce true (Text.segments p.toText) = p.names := by
    rw [← Path.reduce_filter]
    show Path.reduce true (PlainPath.ofText p.toText).names = _
    rw [names, Path.reduce_names (names_of_linkFree free)]
  rw [Place.ofPath, reduced]

section
variable (free : LinkFree h.linkTarget? p) (held : h.isDirectory p.toText = true)
include free held

/-- The working directory and all above it are directories. -/
theorem node?_of_suffix {above : Place} (part : above <:+ p.names.reverse) :
    h.tree.node? above = some .directory := by
  obtain ⟨lower, written⟩ := part
  have whole : p = (⟨p.slashes, above.reverse⟩ : PlainPath).under lower.reverse := by
    have names := congrArg List.reverse written
    rw [List.reverse_append, List.reverse_reverse] at names
    simp [PlainPath.under, names]
  rw [whole] at free held
  simpa using (run_above free held).2

/-- A climb from the working directory comes to where one comes from the root as well. -/
theorem run_aside (rise : Nat) (rest : List Text) (follow : Bool) :
    h.tree.run follow p.names.reverse (List.replicate rise Path.up ++ rest)
      = h.tree.run follow [] ((p.climb rise).names ++ rest) := by
  have directories (above : Place) := @node?_of_suffix p h free held above
  rw [FileTree.run_climb rise rest directories, ← PlainPath.reverse_climb]
  obtain ⟨lower, whole⟩ := p.exists_under_climb rise
  rw [whole] at free held
  exact ((run_above free held).1 follow rest).symm

variable (existing : h.directory? = some p.toText)
include existing

/-- What a relative path names is what the absolute one names that it leads to. -/
theorem lookup_aside (plain : ∀ name ∈ names, Path.IsName name) (some : names ≠ [])
    (admitted : Admits (aside rise names))
    (admitted' : Admits ((p.climb rise).under names).toText) (follow : Bool) :
    h.lookup follow (aside rise names)
      = h.lookup follow ((p.climb rise).under names).toText := by
  have proper := Path.proper_aside rise plain
  have relative : Path.isAbsolute (aside rise names) = false :=
    PlainPath.isAbsolute_ofSegments proper
  have nonempty : aside rise names ≠ [] := (Path.open_ofSegments proper (by simp [some])).1
  have cut : Text.segments (aside rise names) = List.replicate rise Path.up ++ names :=
    Text.segments_ofSegments (by simp [some]) fun piece member => (proper.pieces piece member).2.2
  have rooted : ((p.climb rise).under names).slashes ≠ 0 := rooted_of_linkFree (p := p) free
  have further : ∀ name ∈ ((p.climb rise).under names).names, Path.IsName name :=
    List.forall_mem_append.mpr
      ⟨fun name member => names_of_linkFree free name (List.mem_of_mem_take member), plain⟩
  rw [lookup_of_admits follow admitted' (PlainPath.isAbsolute_toText rooted)]
  simp only [lookup, FileTree.lookup, admitted.1, Bool.false_eq_true, if_false, nonempty,
    Nat.not_le.mpr admitted.2, relative, start?, existing, Option.map_some,
    place_of_linkFree free, cut]
  apply FileTree.walk_eq_of_run
  rw [run_aside free held, h.tree.run_toText rooted further]
  rfl

/-- A relative path without links that can be looked up leads to an absolute one without links. -/
theorem linkFree_of_aside (below : LinkFreeAside h.linkTarget? rise names)
    (admitted : Admits (aside rise names)) :
    LinkFree h.linkTarget? ((p.climb rise).under names) := by
  induction below with
  | nil =>
    obtain ⟨lower, whole⟩ := p.exists_under_climb rise
    have above : LinkFree h.linkTarget? (p.climb rise) := by
      rw [whole] at free
      exact (linkFree_of_under free).1
    simpa [PlainPath.under] using above
  | @snoc names name below valid plain ih =>
    have above := ih (admits_of_start admitted (Path.aside_prefix_snoc rise names name))
    have step : (p.climb rise).under (names ++ [name])
        = ((p.climb rise).under names).child name := by
      simp [PlainPath.under, PlainPath.child]
    rw [step]
    refine .child above valid ?_
    rw [← step]
    -- a link there would have been met on the relative path, since that can be looked up
    by_contra linked
    have admitted' : Admits ((p.climb rise).under (names ++ [name])).toText := by
      by_contra refused
      obtain ⟨fault, -, refused⟩ := lookup_refused refused
      exact linked (by rw [linkTarget?, refused])
    have names_plain := names_of_linkFreeAside (.snoc below valid plain)
    have same := lookup_aside free held existing names_plain (by simp) admitted admitted' false
    rw [linkTarget?, ← same] at linked
    exact linked plain

omit held in
theorem absolute_aside (plain : ∀ name ∈ names, Path.IsName name) :
    h.absolute (aside rise names) = .ok ((p.climb rise).under names).toText := by
  have proper := Path.proper_aside rise plain
  have relative : Path.isAbsolute (aside rise names) = false :=
    PlainPath.isAbsolute_ofSegments proper
  have rooted := rooted_of_linkFree free
  have written : PlainPath.ofText (Path.join p.toText (aside rise names))
      = ⟨p.slashes, p.names ++ (List.replicate rise Path.up ++ names)⟩ := by
    have slashes := PlainPath.slashes_join (s := p.toText) relative
    have joined := PlainPath.names_join (s := p.toText) relative
    rw [PlainPath.ofText_toText (proper_of_linkFree free)] at slashes joined
    have behind : (PlainPath.ofText (aside rise names)).names
        = List.replicate rise Path.up ++ names := PlainPath.filter_segments_ofSegments proper
    rw [behind] at joined
    rw [← slashes, ← joined]
  have settled := PlainPath.reduce_climb rise (names_of_linkFree free) plain
  simp only [absolute, relative, Bool.false_eq_true, if_false, workingDirectory, existing,
    Except.map, PlainPath.normalize_eq, written, PlainPath.settle, rooted, ne_eq, not_false_eq_true,
    decide_true, settled]
  rfl

end

/-! ### Starting points -/

/-- What a directory resolves to before it is made absolute. -/
def resolved (h : Host) (directory : Text) : Text :=
  Canonical.resolve h.linkTarget? h.resolutionLimit (PlainPath.ofText directory).toText

/-- A directory whose resolution meets no link that leads back to itself. -/
def Unlooped (h : Host) (directory : Text) : Prop :=
  let plain := (PlainPath.ofText directory).toText
  (resolveFrom h.linkTarget? h.resolutionLimit []
    (if Path.isAbsolute plain then ['/'] else []) (Text.segments plain)).isResolved = true

instance (h : Host) (directory : Text) : Decidable (h.Unlooped directory) :=
  inferInstanceAs (Decidable (_ = true))

/-- A directory on whose way every link can be looked up: an absolute one, or one that resolves to a
short enough path from a working directory under its canonical form. -/
def WithinReach (h : Host) (directory : Text) : Prop :=
  Path.isAbsolute directory = true ∨
    h.Situated ∧ Utf8.encodedLength (h.resolved directory) < FileTree.pathLimit

instance (h : Host) (directory : Text) : Decidable (h.WithinReach directory) :=
  inferInstanceAs (Decidable (_ ∨ _ ∧ _))

theorem isAbsolute_plain (directory : Text) :
    Path.isAbsolute (PlainPath.ofText directory).toText = Path.isAbsolute directory := by
  cases absolute : Path.isAbsolute directory with
  | true => exact PlainPath.isAbsolute_toText (Path.isAbsolute_iff_rootSlashes.mp absolute)
  | false =>
    have proper := PlainPath.proper_ofText directory
    have slashes : (PlainPath.ofText directory).slashes = 0 :=
      Path.rootSlashes_of_relative absolute
    have relative := PlainPath.isAbsolute_ofSegments proper
    unfold PlainPath.toText
    simp only [slashes, List.replicate_zero, List.nil_append]
    split
    · rfl
    · exact relative

/-- Without a loop a resolution ends on a link-free path, from the root or after a climb, in which
there is no null character. -/
theorem resolved_settledAnywhere (storable : h.LinksStorable) (unlooped : h.Unlooped directory)
    (clean : directory.contains '\x00' = false) :
    SettledAnywhere h.linkTarget? (h.resolved directory) ∧ '\x00' ∉ h.resolved directory := by
  have start : SettledAnywhere h.linkTarget?
      (if Path.isAbsolute (PlainPath.ofText directory).toText then ['/'] else []) := by
    split
    · exact .inl settled_root
    · exact .inr ⟨0, [], .nil, rfl⟩
  have start' : '\x00' ∉
      (if Path.isAbsolute (PlainPath.ofText directory).toText then ['/'] else []) := by
    split <;> decide
  have whole := nullFree_plain clean
  have kept : (resolveFrom h.linkTarget? h.resolutionLimit []
      (if Path.isAbsolute (PlainPath.ofText directory).toText then ['/'] else [])
      (Text.segments (PlainPath.ofText directory).toText)).Kept (SettledAnywhere h.linkTarget?) :=
    resolveFrom_kept invariant_settledAnywhere nofun start fun piece member =>
      ⟨(whole piece member).1, trivial⟩
  have kept' : (resolveFrom h.linkTarget? h.resolutionLimit []
      (if Path.isAbsolute (PlainPath.ofText directory).toText then ['/'] else [])
      (Text.segments (PlainPath.ofText directory).toText)).Kept ('\x00' ∉ ·) :=
    resolveFrom_kept (invariant_nullFree storable) nofun start' whole
  unfold Unlooped at unlooped
  unfold resolved resolve
  simp only at unlooped ⊢
  cases ended : resolveFrom h.linkTarget? h.resolutionLimit []
      (if Path.isAbsolute (PlainPath.ofText directory).toText then ['/'] else [])
      (Text.segments (PlainPath.ofText directory).toText) with
  | looping path =>
    rw [ended] at unlooped
    cases unlooped
  | resolved path seen =>
    rw [ended] at kept kept'
    exact ⟨kept.1, kept'.1⟩

/-- Where a climb and names lead, there is no null character if there is none on the way. -/
theorem nullFree_under_climb (rooted : p.slashes ≠ 0) (above : '\x00' ∉ p.toText)
    (below : '\x00' ∉ aside rise names) : '\x00' ∉ ((p.climb rise).under names).toText := by
  intro held
  rw [PlainPath.toText_of_rooted (p := (p.climb rise).under names) rooted] at held
  rw [PlainPath.toText_of_rooted rooted] at above
  rcases List.mem_append.mp held with slash | held
  · cases List.eq_of_mem_replicate slash
  · rcases Text.mem_ofSegments held with slash | ⟨name, member, held⟩
    · cases slash
    · rcases List.mem_append.mp member with member | member
      · have whole := Text.subset_ofSegments (List.mem_of_mem_take member) held
        exact above (List.mem_append_right _ whole)
      · exact below (Text.subset_ofSegments (List.mem_append_right _ member) held)

/-- Made absolute, a link-free path that can be looked up is the canonical form of itself and meets
no loop. -/
theorem settled_of_absolute {path : Text} (situated : h.Situated)
    (settled : SettledAnywhere h.linkTarget? path) (clean : '\x00' ∉ path)
    (short : Utf8.encodedLength path < FileTree.pathLimit) (made : h.absolute path = .ok start) :
    h.canonical start = .ok start ∧ h.Loopless start := by
  have stays {q : PlainPath} (free : LinkFree h.linkTarget? q) (clean : '\x00' ∉ q.toText) :
      h.canonical q.toText = .ok q.toText ∧ h.Loopless q.toText :=
    ⟨canonical_of_linkFree free (by simpa using clean), loopless_of_linkFree free⟩
  rcases settled with ⟨q, free, rfl⟩ | ⟨rise, names, below, rfl⟩
  · rw [absolute_of_isAbsolute h (PlainPath.isAbsolute_toText (rooted_of_linkFree free)),
      normalize_of_linkFree free, Except.ok.injEq] at made
    exact made ▸ stays free clean
  · have plain := names_of_linkFreeAside below
    cases existing : h.directory? with
    | none =>
      have relative : Path.isAbsolute (aside rise names) = false :=
        PlainPath.isAbsolute_ofSegments (Path.proper_aside rise plain)
      simp [Host.absolute, relative, workingDirectory, existing, Except.map] at made
    | some cwd =>
      obtain ⟨fixed, loopless, held⟩ := situated cwd existing
      obtain ⟨p, free, rfl⟩ := linkFree_of_canonical loopless fixed
      have admitted : Admits (aside rise names) := ⟨by simpa using clean, short⟩
      have above : '\x00' ∉ p.toText := by simpa using (canonical_ok fixed).1
      rw [absolute_aside free existing plain, Except.ok.injEq] at made
      exact made ▸ stays (linkFree_of_aside free held existing below admitted)
        (nullFree_under_climb (rooted_of_linkFree free) above clean)

/-- Where no link leads back to itself and every one can be looked up, discovery starts at a
directory that is the canonical form of itself and meets no loop either. -/
theorem settled_of_startingPoint (storable : h.LinksStorable)
    (unlooped : h.Unlooped (start?.getD [])) (reach : h.WithinReach (start?.getD []))
    (started : h.startingPoint start? = .ok start) :
    h.canonical start = .ok start ∧ h.Loopless start := by
  have given : h.startingPoint start? = h.startingPoint (some (start?.getD [])) := by
    cases start? <;> rfl
  rw [given] at started
  generalize start?.getD [] = directory at unlooped reach started
  cases directory with
  | nil =>
    -- the working directory is taken as it is
    rcases reach with absolute | ⟨situated, -⟩
    · cases absolute
    · cases existing : h.directory? with
      | none => simp [startingPoint, workingDirectory, existing] at started
      | some cwd =>
        simp only [startingPoint, workingDirectory, existing, Except.ok.injEq] at started
        obtain ⟨fixed, loopless, -⟩ := situated cwd existing
        exact started ▸ ⟨fixed, loopless⟩
  | cons c rest =>
    rcases reach with absolute | ⟨situated, short⟩
    · refine settled_of_canonical storable ⟨absolute, ?_⟩ started
      simpa [Unlooped, isAbsolute_plain, absolute] using unlooped
    · obtain ⟨clean, made, -⟩ := canonical_ok started
      obtain ⟨settled, clean⟩ := resolved_settledAnywhere storable unlooped clean
      exact settled_of_absolute situated settled clean short made

end Host
end ImportResolution
