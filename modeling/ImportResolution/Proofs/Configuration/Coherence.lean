import ImportResolution.Proofs.CommandLine.Located
import ImportResolution.Proofs.Host.Relative

/-! Discovery from directories on one way. Where a directory decides, it decides for every directory
from which it is met first, and where none decides from a start, none does from a directory above
it: what is above a resolved directory is resolved already, and what a directory says does not
depend on where discovery began. -/
namespace ImportResolution.Configuration

variable {h : Host} {fileName start : Text} {start? : Option Text} {p near directory : PlainPath}
  {nearer farther : List PlainPath} {outcome : Except Fault Discovery}

/-- The way up goes on above a directory on it as it does from there. -/
theorem parents_of_way (way : p :: p.parents = nearer ++ near :: farther) :
    farther = near.parents := by
  obtain ⟨slashes, names⟩ := p
  induction names using List.reverseRecOn generalizing nearer with
  | nil =>
    rcases List.append_eq_singleton_iff.mp way.symm with ⟨-, last⟩ | ⟨-, none⟩
    · cases last
      rfl
    · cases none
  | append_singleton names name ih =>
    have step : (⟨slashes, names ++ [name]⟩ : PlainPath).parents
        = ⟨slashes, names⟩ :: PlainPath.parents ⟨slashes, names⟩ :=
      PlainPath.parents_child ⟨slashes, names⟩ name
    rw [step] at way
    cases nearer with
    | nil =>
      obtain ⟨rfl, rfl⟩ := List.cons.inj way
      exact step.symm
    | cons first nearer => exact ih (List.cons.inj way).2

theorem ofText_asked (member : near ∈ asked start) : PlainPath.ofText near.toText = near := by
  refine PlainPath.ofText_toText ?_
  rcases List.mem_cons.mp member with rfl | above
  · exact PlainPath.proper_ofText start
  · exact PlainPath.proper_of_mem_parents (PlainPath.proper_ofText start) above

/-- From a directory on the way, discovery asks what is left of the way. -/
theorem asked_of_way (way : asked start = nearer ++ near :: farther) :
    asked near.toText = near :: farther := by
  have member : near ∈ asked start := by simp [way]
  rw [asked, ofText_asked member, parents_of_way way]

/-- Where no link leads back to itself and every one can be looked up, discovery can start at each
directory that it asks, and starts there at this very directory. -/
theorem startingPoint_asked (storable : h.LinksStorable)
    (unlooped : h.Unlooped (start?.getD [])) (reach : h.WithinReach (start?.getD []))
    (started : h.startingPoint start? = .ok start) (member : near ∈ asked start) :
    h.startingPoint (some near.toText) = .ok near.toText := by
  obtain ⟨fixed, loopless⟩ := Host.settled_of_startingPoint storable unlooped reach started
  exact Request.startingPoint_of_fixed (Request.canonical_asked fixed loopless member)

/-- Discovery is coherent along its way. What the nearest directory decides that decides anything,
be it a fault, is the outcome from every directory between the start and this one, and from both of
them. If none decides, then none does from any directory above the start, and each of them is
located without entries for itself. -/
theorem discover_coherent (storable : h.LinksStorable) (unlooped : h.Unlooped (start?.getD []))
    (reach : h.WithinReach (start?.getD [])) (started : h.startingPoint start? = .ok start)
    (fileName : Text) :
    (∀ nearer directory farther outcome, asked start = nearer ++ directory :: farther →
      (∀ near ∈ nearer, Passes h fileName near) → Decides h fileName directory outcome →
      (discover h start? fileName).outcome = outcome ∧
        ∀ near ∈ nearer ++ [directory],
          (discover h (some near.toText) fileName).outcome = outcome) ∧
    ((∀ near ∈ asked start, Passes h fileName near) →
      (discover h start? fileName).outcome = .ok (.located ⟨[], start, none⟩) ∧
        ∀ above ∈ asked start,
          (discover h (some above.toText) fileName).outcome
            = .ok (.located ⟨[], above.toText, none⟩)) := by
  have starts (near : PlainPath) (member : near ∈ asked start) :=
    startingPoint_asked storable unlooped reach started member
  constructor
  · intro nearer directory farther outcome way passed decides
    refine ⟨outcome_of_discovers (.decided started way passed decides), fun near member => ?_⟩
    rcases List.mem_append.mp member with below | here
    · -- the directories between are left of the way, and then the one that decides
      obtain ⟨before, between, rfl⟩ := List.append_of_mem below
      have rest : asked start = before ++ near :: (between ++ directory :: farther) := by
        rw [way, List.append_assoc, List.cons_append]
      have left : asked near.toText = (near :: between) ++ directory :: farther :=
        asked_of_way rest
      have first := starts near (by simp [rest])
      refine outcome_of_discovers (.decided first left (fun other member => ?_) decides)
      exact passed other (List.mem_append_right _ member)
    · obtain rfl := List.mem_singleton.mp here
      have left : asked near.toText = [] ++ near :: farther := asked_of_way way
      have first := starts near (by simp [way])
      exact outcome_of_discovers (.decided first left nofun decides)
  · intro passed
    obtain ⟨fixed, loopless⟩ := Host.settled_of_startingPoint storable unlooped reach started
    obtain ⟨p, free, rfl⟩ := Host.linkFree_of_canonical loopless fixed
    have written := PlainPath.ofText_toText (Canonical.proper_of_linkFree free)
    constructor
    · have undecided := outcome_of_discovers (.undecided started passed)
      rwa [written] at undecided
    · intro above member
      obtain ⟨before, farther, way⟩ := List.append_of_mem member
      have undecided := outcome_of_discovers (.undecided (starts above member) fun other further =>
        passed other (by
          rw [asked_of_way way] at further
          rw [way]
          exact List.mem_append_right _ further))
      rwa [ofText_asked member] at undecided

/-- The root of a configuration that a file supplied, and this file. -/
def Discovery.supplied? : Discovery → Option (Text × Text)
  | .located ⟨_, root, some source⟩ => some (root, source)
  | _ => none

/-- A configuration that a file supplied was decided on the way, not before the start itself was
asked. -/
theorem way_of_supplied {root source : Text} (started : h.startingPoint start? = .ok start)
    (supplied : (discover h start? fileName).outcome.map Discovery.supplied?
      = .ok (some (root, source))) :
    ∃ nearer directory farther entries, directory.toText = root ∧
      asked start = nearer ++ directory :: farther ∧
      PlainPath.ofText start ∈ nearer ++ [directory] ∧
      (∀ near ∈ nearer, Passes h fileName near) ∧
      Decides h fileName directory (.ok (.located ⟨entries, root, some source⟩)) := by
  have discovers := discovers_outcome h start? fileName
  obtain ⟨discovery, found, read⟩ := Except.map_eq_ok.mp supplied
  rw [found] at discovers
  match discovery, read with
  | .located ⟨entries, root, some source⟩, rfl =>
    cases discovers with
    | @decided other nearer directory farther _ started' way passed decides =>
      cases started.symm.trans started'
      refine ⟨nearer, directory, farther, entries, ?_, way, ?_, passed, decides⟩
      · cases decides
        rfl
      · cases nearer with
        | nil => exact List.mem_singleton.mpr (List.cons.inj way).1
        | cons near nearer => exact List.mem_cons.mpr (.inl (List.cons.inj way).1)

/-- From a relative directory behind a link, from what it resolves to and from the directory that
decides, the same configuration is located. -/
theorem discover_coherent_linked :
    ∃ entries, ∀ directory ∈ ["l/app".toList, "/p/app".toList, "/p".toList],
      (discover CommandLine.linked (some directory) defaultFileName).outcome
        = .ok (.located ⟨entries, "/p".toList, some "/p/.babelrc".toList⟩) := by
  have started : CommandLine.linked.startingPoint (some "l/app".toList) = .ok "/p/app".toList := by
    decide +kernel
  have supplied : (discover CommandLine.linked (some "l/app".toList) defaultFileName).outcome.map
      Discovery.supplied? = .ok (some ("/p".toList, "/p/.babelrc".toList)) := by decide +kernel
  obtain ⟨nearer, directory, farther, entries, here, way, first, passed, decides⟩ :=
    way_of_supplied started supplied
  obtain ⟨coherent, -⟩ := @discover_coherent CommandLine.linked "/p/app".toList
    (some "l/app".toList) (by decide +kernel) (by decide +kernel) (by decide +kernel) started
    defaultFileName
  obtain ⟨found, same⟩ := coherent _ _ _ _ way passed decides
  have written : (PlainPath.ofText "/p/app".toList).toText = "/p/app".toList := by decide
  have fromStart := same _ first
  have fromDirectory := same directory (by simp)
  rw [written] at fromStart
  rw [here] at fromDirectory
  refine ⟨entries, ?_⟩
  simp only [List.forall_mem_cons]
  exact ⟨found, fromStart, fromDirectory, nofun⟩

/-- Meeting no loop is not enough for a relative directory. What it resolves to may be too long to
be looked up before it is made absolute, and then the directory that discovery starts at resolves
further: from there another directory decides. -/
theorem overlong_not_coherent : ¬ ∀ (h : Host) (start? : Option Text) (start fileName : Text)
    (nearer : List PlainPath) (directory : PlainPath) (farther : List PlainPath)
    (outcome : Except Fault Discovery), h.LinksStorable → h.Situated →
    h.Unlooped (start?.getD []) → h.startingPoint start? = .ok start →
    asked start = nearer ++ directory :: farther → (∀ near ∈ nearer, Passes h fileName near) →
    Decides h fileName directory outcome →
    ∀ near ∈ nearer ++ [directory],
      (discover h (some near.toText) fileName).outcome = outcome := by
  intro coherent
  have started : CommandLine.farDown.startingPoint (some CommandLine.dotted)
      = .ok ('/' :: CommandLine.longWay ++ "/l".toList) := by decide +kernel
  have supplied : (discover CommandLine.farDown (some CommandLine.dotted)
      defaultFileName).outcome.map Discovery.supplied?
        = .ok (some ("/".toList, "/.babelrc".toList)) := by decide +kernel
  obtain ⟨nearer, directory, farther, entries, -, way, first, passed, decides⟩ :=
    way_of_supplied started supplied
  have same := coherent _ _ _ _ _ _ _ _ (by decide +kernel) (by decide +kernel)
    (by decide +kernel) started way passed decides _ first
  have further : (discover CommandLine.farDown
      (some (PlainPath.ofText ('/' :: CommandLine.longWay ++ "/l".toList)).toText)
      defaultFileName).outcome.map Discovery.supplied?
        = .ok (some ("/a".toList, "/a/.babelrc".toList)) := by decide +kernel
  rw [same] at further
  cases further

end ImportResolution.Configuration
