import ImportResolution.Host
import ImportResolution.Proofs.Outcome
import ImportResolution.Proofs.Path.NormalForm

/-! The root of a request: the canonical form of the directory that is given for it, or the working
directory. Systems give the working directory as an absolute path, and then every root is one. -/
namespace ImportResolution

namespace Host

variable {h : Host} {root? : Option Text} {root p path : Text}

/-- The working directory, if there is one, is an absolute path. -/
def Rooted (h : Host) : Prop :=
  ∀ directory, h.directory? = some directory → Path.isAbsolute directory = true

/-- The root that a request names, as a plain path. -/
def rootOf (h : Host) (root? : Option Text) : Except Fault Text :=
  (h.startingPoint root?).map fun start => (PlainPath.ofText start).toText

/-- A root is the plain form of the starting point. -/
theorem rootOf_ok (located : h.rootOf root? = .ok root) :
    ∃ start, h.startingPoint root? = .ok start ∧ (PlainPath.ofText start).toText = root :=
  Except.map_eq_ok.mp located

theorem absolute_of_isAbsolute (h : Host) (absolute : Path.isAbsolute p = true) :
    h.absolute p = .ok (Path.normalize p) := by
  simp [Host.absolute, absolute]

/-- Wherever there is a working directory, the absolute form of a path is absolute. -/
theorem isAbsolute_absolute (rooted : h.Rooted) (made : h.absolute p = .ok path) :
    Path.isAbsolute path = true := by
  cases absolute : Path.isAbsolute p with
  | true =>
    rw [absolute_of_isAbsolute h absolute] at made
    cases made
    exact Path.isAbsolute_normalize absolute
  | false =>
    cases existing : h.directory? with
    | none => simp [Host.absolute, absolute, workingDirectory, existing, Except.map] at made
    | some directory =>
      simp only [Host.absolute, absolute, Bool.false_eq_true, if_false, workingDirectory, existing,
        Except.map, Except.ok.injEq] at made
      rw [← made]
      exact Path.isAbsolute_normalize (Path.isAbsolute_join (rooted directory existing) p)

/-- Absolute forms are normal. -/
theorem normalize_absolute (rooted : h.Rooted) (made : h.absolute p = .ok path) :
    Path.normalize path = path := by
  cases absolute : Path.isAbsolute p with
  | true =>
    rw [absolute_of_isAbsolute h absolute] at made
    cases made
    exact Path.normalize_normalize absolute
  | false =>
    simp only [Host.absolute, absolute, Bool.false_eq_true, if_false] at made
    obtain ⟨directory, existing, rfl⟩ := Except.map_eq_ok.mp made
    have placed : Path.isAbsolute directory = true := by
      unfold workingDirectory at existing
      split at existing
      · rename_i held
        cases existing
        exact rooted directory held
      · cases existing
    exact Path.normalize_normalize (Path.isAbsolute_join placed p)

/-- There is no room to follow the links of a path. -/
def LinksOverflow (h : Host) (p : Text) : Prop :=
  Canonical.overflows h.linkTarget? h.resolutionLimit h.room.links (PlainPath.ofText p).toText
    = true

/-- Where there is a working directory, a path without the null character and without loops has a
canonical form, if there is room to follow its links. -/
theorem canonical_settled (existing : h.directory? = some root) (clean : p.contains '\x00' = false)
    (loopless : ∀ path, h.canonical p ≠ .error (.linkLoop path)) :
    (h.LinksOverflow p → h.canonical p = .error (.exhausted .links)) ∧
      (¬ h.LinksOverflow p → ∃ path, h.canonical p = .ok path) := by
  have present (path : Text) : ∃ absolute, h.absolute path = .ok absolute := by
    unfold Host.absolute
    split
    · exact ⟨_, rfl⟩
    · exact ⟨_, by rw [workingDirectory, existing]; rfl⟩
  unfold canonical at loopless ⊢
  simp only [clean, Bool.false_eq_true, if_false] at loopless ⊢
  refine ⟨fun full => if_pos full, fun fits => ?_⟩
  rw [LinksOverflow, Bool.not_eq_true] at fits
  simp only [fits, Bool.false_eq_true, if_false] at loopless ⊢
  obtain ⟨path, made⟩ := present
    (Canonical.resolve h.linkTarget? h.resolutionLimit (PlainPath.ofText p).toText)
  simp only [made] at loopless ⊢
  split
  · rename_i looping
    exact absurd (by rw [looping]) (loopless path)
  · exact ⟨path, rfl⟩

/-- A canonical path is the absolute form of a path, looked up without a loop. -/
theorem canonical_ok (found : h.canonical p = .ok path) :
    p.contains '\x00' = false ∧
      h.absolute (Canonical.resolve h.linkTarget? h.resolutionLimit (PlainPath.ofText p).toText)
        = .ok path ∧
      h.lookup true path ≠ .error .tooManyLinks := by
  unfold canonical at found
  split at found
  · cases found
  · rename_i clean
    simp only at found
    split at found
    · cases found
    split at found
    · cases found
    · rename_i made
      split at found
      · cases found
      · rename_i ended
        cases found
        exact ⟨by simpa using clean, made, ended⟩

theorem isAbsolute_startingPoint (rooted : h.Rooted) (found : h.startingPoint root? = .ok path) :
    Path.isAbsolute path = true := by
  unfold startingPoint at found
  split at found
  · exact isAbsolute_absolute rooted (canonical_ok found).2.1
  · cases existing : h.directory? with
    | none => simp [workingDirectory, existing] at found
    | some directory =>
      simp only [workingDirectory, existing, Except.ok.injEq] at found
      rw [← found]
      exact rooted directory existing

/-- From a normal working directory, every starting point is normal. -/
theorem normalize_startingPoint (rooted : h.Rooted)
    (normal : ∀ directory, h.directory? = some directory → Path.normalize directory = directory)
    (found : h.startingPoint root? = .ok path) : Path.normalize path = path := by
  unfold startingPoint at found
  split at found
  · exact normalize_absolute rooted (canonical_ok found).2.1
  · cases existing : h.directory? with
    | none => simp [workingDirectory, existing] at found
    | some directory =>
      simp only [workingDirectory, existing, Except.ok.injEq] at found
      rw [← found]
      exact normal directory existing

/-- The root of a request is absolute. -/
theorem isAbsolute_rootOf (rooted : h.Rooted) (located : h.rootOf root? = .ok root) :
    Path.isAbsolute root = true := by
  obtain ⟨start, started, rfl⟩ := rootOf_ok located
  have absolute := isAbsolute_startingPoint rooted started
  exact PlainPath.isAbsolute_toText (Path.isAbsolute_iff_rootSlashes.mp absolute)

/-- Canonical forms are a matter of the working directory, of the room on the stack, of the links
and of which paths lead back to themselves. -/
theorem canonical_congr {h' : Host} (same : h'.directory? = h.directory?) (room : h'.room = h.room)
    (targets : h'.linkTarget? = h.linkTarget?) (limits : h'.resolutionLimit = h.resolutionLimit)
    (loops : ∀ path, h'.lookup true path = .error .tooManyLinks ↔
      h.lookup true path = .error .tooManyLinks)
    (path : Text) : h'.canonical path = h.canonical path := by
  have absolute : h'.absolute = h.absolute := by
    funext path
    simp only [Host.absolute, workingDirectory, same]
  unfold canonical
  rw [targets, limits, absolute, room]
  split
  · rfl
  simp only
  split
  · rfl
  cases h.absolute _ with
  | error fault => rfl
  | ok place =>
    simp only
    split
    · rename_i looped
      rw [(loops place).mp looped]
    · rename_i ended
      split
      · rename_i looped
        exact absurd ((loops place).mpr looped) ended
      · rfl

theorem startingPoint_congr {h' : Host} (same : h'.directory? = h.directory?)
    (canonical : ∀ path, h'.canonical path = h.canonical path) (start? : Option Text) :
    h'.startingPoint start? = h.startingPoint start? := by
  unfold startingPoint
  split
  · exact canonical _
  · simp only [workingDirectory, same]

end Host
end ImportResolution
