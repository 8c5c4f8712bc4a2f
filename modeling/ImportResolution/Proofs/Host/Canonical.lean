import ImportResolution.Proofs.FileTree.LinkFree
import ImportResolution.Proofs.FileTree.Steps
import ImportResolution.Proofs.Host.Root

/-! Canonical paths that stay as they are. A path on which no directory is a link is looked up
without following anything, so it is its own canonical form, and so is every directory above it. -/
namespace ImportResolution

/-- What a text does not contain, no start of it contains. -/
theorem Text.contains_of_start {c : Char} {part whole : Text} (clean : whole.contains c = false)
    (start : part <+: whole) : part.contains c = false := by
  obtain ⟨rest, rfl⟩ := start
  simp only [List.contains_eq_mem, List.mem_append, decide_eq_false_iff_not, not_or] at clean ⊢
  exact clean.1

theorem Utf8.encodedLength_append (front back : Text) :
    encodedLength (front ++ back) = encodedLength front + encodedLength back := by
  induction front with
  | nil => simp [encodedLength]
  | cons c front ih =>
    simp only [List.cons_append, encodedLength, ih]
    omega

/-- A name below a place leads on, leads nowhere, or belongs to a link. -/
theorem FileTree.run_name (t : FileTree) (place : Place) {name : Text} (valid : Path.IsName name) :
    (∀ follow rest, t.run follow place (name :: rest) = t.run follow (name :: place) rest) ∨
      (∃ fault, fault ≠ .tooManyLinks ∧
        ∀ follow rest, t.run follow place (name :: rest) = .failed fault) ∨
      ∃ target, t.run false place [name] = .arrived (name :: place) (.link target) := by
  simp only [run_cons]
  cases taken : t.step place name with
  | goes next =>
    rw [place_of_goes valid taken]
    exact .inl fun _ _ => rfl
  | fails fault => exact .inr (.inl ⟨fault, ne_tooManyLinks_of_fails taken, fun _ _ => rfl⟩)
  | meets target => exact .inr (.inr ⟨target, by simp [Step.stop]⟩)

/-- The empty pieces before the slashes of the root do not move a run. -/
theorem FileTree.run_toText (t : FileTree) {p : PlainPath} (rooted : p.slashes ≠ 0)
    (plain : ∀ name ∈ p.names, Path.IsName name) (follow : Bool) :
    t.run follow [] (Text.segments p.toText) = t.run follow [] p.names := by
  have behind : t.run follow [] (Text.segments (Text.ofSegments p.names))
      = t.run follow [] p.names := by
    by_cases root : p.names = []
    · simp [root, Text.segments, run, Node.isDirectory]
    · rw [Text.segments_ofSegments root fun name member => (plain name member).no_slash]
  rw [PlainPath.toText_of_rooted rooted]
  generalize p.slashes = slashes
  induction slashes with
  | zero => exact behind
  | succ slashes ih =>
    rw [List.replicate_succ, List.cons_append, Text.segments_slash, ← ih]
    rfl

namespace Host

open Canonical

variable {h : Host} {p : PlainPath} {name path : Text}

/-- Whether a path can be looked up at all: it has no null character and is short enough. -/
def Admits (path : Text) : Prop :=
  path.contains '\x00' = false ∧ Utf8.encodedLength path < FileTree.pathLimit

theorem admits_of_start {whole : Text} (admitted : Admits whole) (part : path <+: whole) :
    Admits path := by
  obtain ⟨clean, short⟩ := admitted
  refine ⟨Text.contains_of_start clean part, ?_⟩
  obtain ⟨rest, rfl⟩ := part
  rw [Utf8.encodedLength_append] at short
  omega

/-- A path that is not admitted is refused by every host alike, and not for a link. -/
theorem lookup_refused (refused : ¬ Admits path) :
    ∃ fault, fault ≠ .tooManyLinks ∧ ∀ (h : Host) follow, h.lookup follow path = .error fault := by
  by_cases null : path.contains '\x00' = true
  · refine ⟨.embeddedNull, nofun, fun h follow => ?_⟩
    unfold lookup FileTree.lookup
    rw [if_pos null]
  · have long : FileTree.pathLimit ≤ Utf8.encodedLength path :=
      Nat.le_of_not_lt fun short => refused ⟨by simpa using null, short⟩
    by_cases empty : path = []
    · refine ⟨.missing, nofun, fun h follow => ?_⟩
      unfold lookup FileTree.lookup
      rw [if_neg null, if_pos empty]
    · refine ⟨.nameTooLong, nofun, fun h follow => ?_⟩
      unfold lookup FileTree.lookup
      rw [if_neg null, if_neg empty, if_pos long]

theorem admits_of_found {place : Place} {node : Node} {follow : Bool}
    (found : h.lookup follow path = .ok (place, node)) : Admits path := by
  refine Classical.byContradiction fun refused => ?_
  obtain ⟨fault, -, failed⟩ := lookup_refused refused
  rw [failed] at found
  cases found

/-- An admitted absolute path is looked up by walking from the root. -/
theorem lookup_of_admits (follow : Bool) (admitted : Admits path)
    (absolute : Path.isAbsolute path = true) :
    h.lookup follow path
      = h.tree.walk follow FileTree.linkLimit [] (Text.segments path) := by
  have nonempty : path ≠ [] := by
    rintro rfl
    cases absolute
  simp only [lookup, FileTree.lookup, admitted.1, Bool.false_eq_true, if_false, nonempty,
    Nat.not_le.mpr admitted.2, absolute, if_true]

theorem run_segments (t : FileTree) {target? : Text → Option Text} (free : LinkFree target? p)
    (follow : Bool) : t.run follow [] (Text.segments p.toText) = t.run follow [] p.names :=
  t.run_toText (rooted_of_linkFree free) (names_of_linkFree free) follow

/-- From the root, a run along a link-free path arrives or fails. -/
theorem run_linkFree (free : LinkFree h.linkTarget? p) (admitted : Admits p.toText) :
    (∀ follow rest,
        h.tree.run follow [] (p.names ++ rest) = h.tree.run follow p.names.reverse rest) ∨
      ∃ fault, fault ≠ .tooManyLinks ∧
        ∀ follow rest, h.tree.run follow [] (p.names ++ rest) = .failed fault := by
  induction free with
  | root => exact .inl fun follow rest => rfl
  | @child p name above valid plain ih =>
    have rooted := rooted_of_linkFree above
    rcases ih (admits_of_start admitted (PlainPath.toText_prefix_child rooted)) with
      reached | ⟨fault, other, failed⟩
    · rcases FileTree.run_name h.tree p.names.reverse valid with
        on | ⟨fault, other, nowhere⟩ | ⟨target, link⟩
      · refine .inl ?_
        intro follow rest
        rw [PlainPath.names_child, List.append_assoc, reached, List.singleton_append, on,
          List.reverse_append]
        rfl
      · refine .inr ⟨fault, other, ?_⟩
        intro follow rest
        rw [PlainPath.names_child, List.append_assoc, reached, List.singleton_append, nowhere]
      · -- the lookup that asks for a link would have found this one
        have linked : h.linkTarget? (p.child name).toText = some target := by
          have free := LinkFree.child above valid plain
          have absolute := PlainPath.isAbsolute_toText (rooted_of_linkFree free)
          have found : h.tree.run false [] (Text.segments (p.child name).toText)
              = .arrived (name :: p.names.reverse) (.link target) := by
            rw [run_segments h.tree free, PlainPath.names_child, reached, link]
          simp only [linkTarget?, lookup_of_admits false admitted absolute, FileTree.walk, found]
        rw [plain] at linked
        cases linked
    · refine .inr ⟨fault, other, ?_⟩
      intro follow rest
      rw [PlainPath.names_child, List.append_assoc]
      exact failed follow _

/-- Looking up a link-free path follows no link. -/
theorem lookup_of_linkFree (free : LinkFree h.linkTarget? p) :
    h.lookup true p.toText ≠ .error .tooManyLinks := by
  have absolute := PlainPath.isAbsolute_toText (rooted_of_linkFree free)
  by_cases admitted : Admits p.toText
  · rw [lookup_of_admits true admitted absolute, FileTree.walk, run_segments h.tree free]
    rcases run_linkFree free admitted with reached | ⟨fault, other, failed⟩
    · have arrived := reached true []
      rw [List.append_nil] at arrived
      rw [arrived, FileTree.run]
      cases h.tree.node? p.names.reverse <;> simp
    · have failed := failed true []
      rw [List.append_nil] at failed
      simpa [failed] using other
  · obtain ⟨fault, other, refused⟩ := lookup_refused admitted
    rw [refused]
    simpa using other

/-- A link-free path without the null character is its own canonical form. -/
theorem canonical_of_linkFree (free : LinkFree h.linkTarget? p)
    (clean : p.toText.contains '\x00' = false) : h.canonical p.toText = .ok p.toText := by
  have absolute := PlainPath.isAbsolute_toText (rooted_of_linkFree free)
  simp only [canonical, clean, Bool.false_eq_true, if_false,
    PlainPath.ofText_toText (proper_of_linkFree free), overflows_of_linkFree free,
    resolve_of_linkFree free, absolute_of_isAbsolute h absolute, normalize_of_linkFree free]
  have found := lookup_of_linkFree free
  split
  · rename_i looped
    exact absurd looped found
  · rfl

/-- Each directory above a link-free path is link-free, and its text starts the text of the path. -/
theorem linkFree_of_mem_parents {q : PlainPath} (free : LinkFree h.linkTarget? p)
    (above : q ∈ p.parents) : LinkFree h.linkTarget? q ∧ q.toText <+: p.toText := by
  induction free with
  | root => cases above
  | @child p name free valid plain ih =>
    have part : p.toText <+: (p.child name).toText :=
      PlainPath.toText_prefix_child (rooted_of_linkFree free)
    rw [PlainPath.parents_child] at above
    rcases List.mem_cons.mp above with rfl | above
    · exact ⟨free, part⟩
    · obtain ⟨free', part'⟩ := ih above
      exact ⟨free', part'.trans part⟩

/-- An absolute path whose resolution meets no link that leads back to itself. -/
def Loopless (h : Host) (path : Text) : Prop :=
  Path.isAbsolute path = true ∧
    (resolveFrom h.linkTarget? h.resolutionLimit [] ['/']
      (Text.segments (PlainPath.ofText path).toText)).isResolved = true

instance (h : Host) (path : Text) : Decidable (h.Loopless path) :=
  inferInstanceAs (Decidable (_ ∧ _))

/-- Without a loop, the canonical form of a path is the link-free path that its resolution ends
on. -/
theorem resolved_of_canonical {out : Text} (loopless : h.Loopless path)
    (found : h.canonical path = .ok out) :
    ∃ p seen, LinkFree h.linkTarget? p ∧ out = p.toText ∧
      resolveFrom h.linkTarget? h.resolutionLimit [] ['/']
        (Text.segments (PlainPath.ofText path).toText) = .resolved out seen := by
  obtain ⟨absolute, ended⟩ := loopless
  have plain : Path.isAbsolute (PlainPath.ofText path).toText = true :=
    PlainPath.isAbsolute_toText (Path.isAbsolute_iff_rootSlashes.mp absolute)
  have made := (canonical_ok found).2.1
  have kept : (resolveFrom h.linkTarget? h.resolutionLimit [] ['/']
      (Text.segments (PlainPath.ofText path).toText)).Kept (Settled h.linkTarget?) :=
    resolveFrom_kept invariant_settled nofun settled_root fun piece member =>
      ⟨Text.no_slash_of_mem_segments member, trivial⟩
  simp only [resolve, plain, if_true] at made
  cases resolved : resolveFrom h.linkTarget? h.resolutionLimit [] ['/']
      (Text.segments (PlainPath.ofText path).toText) with
  | looping path =>
    rw [resolved] at ended
    cases ended
  | resolved path seen =>
    rw [resolved] at kept
    obtain ⟨⟨p, free, rfl⟩, _⟩ := kept
    have rooted := PlainPath.isAbsolute_toText (rooted_of_linkFree free)
    simp only [resolved, absolute_of_isAbsolute h rooted, normalize_of_linkFree free,
      Except.ok.injEq] at made
    exact ⟨p, seen, free, made.symm, by rw [made]⟩

/-- Without a loop, the canonical form of a path is link-free. -/
theorem linkFree_of_canonical {out : Text} (loopless : h.Loopless path)
    (found : h.canonical path = .ok out) :
    ∃ p, LinkFree h.linkTarget? p ∧ out = p.toText := by
  obtain ⟨p, seen, free, written, -⟩ := resolved_of_canonical loopless found
  exact ⟨p, free, written⟩

/-- The resolution of a link-free path meets no loop. -/
theorem loopless_of_linkFree (free : LinkFree h.linkTarget? p) : h.Loopless p.toText := by
  refine ⟨PlainPath.isAbsolute_toText (rooted_of_linkFree free), ?_⟩
  simp only [PlainPath.ofText_toText (proper_of_linkFree free), resolveFrom.eq_def h.linkTarget?,
    run_toText free, Outcome.isResolved]

/-- Without a loop, the canonical form of a path is the canonical form of itself. -/
theorem canonical_canonical {out : Text} (loopless : h.Loopless path)
    (found : h.canonical path = .ok out) (clean : out.contains '\x00' = false) :
    h.canonical out = .ok out := by
  obtain ⟨p, free, rfl⟩ := linkFree_of_canonical loopless found
  exact canonical_of_linkFree free clean

end Host
end ImportResolution
