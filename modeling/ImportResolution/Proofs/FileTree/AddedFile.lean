import ImportResolution.Host
import ImportResolution.Proofs.FileTree.Steps

/-! Trees with one more file. A file that is put where nothing stood changes no look-up that led
somewhere. A look-up that missed something still leads nowhere, or it leads to the file. -/
namespace ImportResolution

namespace FileTree

/-- The second tree has a regular file in a place where the first one has nothing, and otherwise the
two are the same. -/
structure AddsFile (before after : FileTree) (place : Place) : Prop where
  vacant : before.node? place = none
  held : ∃ node, after.node? place = some node ∧ node.isFile = true
  others : ∀ other, other ≠ place → after.node? other = before.node? other

variable {before after : FileTree} {place here : Place}

/-- Setting a regular file in a place where nothing stands adds it. -/
theorem addsFile_set (t : FileTree) {node : Node} (vacant : t.node? place = none)
    (regular : node.isFile = true) : t.AddsFile (t.set place node) place := by
  refine ⟨vacant, ⟨node, ?_, regular⟩, fun other => node?_set_of_ne t node⟩
  cases place with
  | nil => simp at vacant
  | cons name above => exact node?_set t name above node

/-- What becomes of a run when a file is added: it stops as before, or, where it missed something,
at the file. -/
inductive Stop.Grows (place : Place) (first second : Stop) : Prop where
  | kept (same : second = first)
  | reached (missed : first = .failed .missing) (regular : node.isFile = true)
      (found : second = .arrived place node)
  | blocked (missed : first = .failed .missing) (refused : second = .failed .notDirectory)

theorem run_grows (adds : before.AddsFile after place) (follow : Bool) (here : Place)
    (components : List Text) :
    Stop.Grows place (before.run follow here components) (after.run follow here components) := by
  obtain ⟨node, held, regular⟩ := adds.held
  -- in the place of the file the first run misses a node
  have at_place (components : List Text) :
      Stop.Grows place (.failed .missing) (after.run follow place components) := by
    have ended := run_at_closed held (Node.isDirectory_of_isFile regular) follow components
    by_cases last : components = []
    · exact .reached rfl regular (by rw [ended, if_pos last])
    · exact .blocked rfl (by rw [ended, if_neg last])
  have at_vacant (components : List Text) :
      Stop.Grows place (before.run follow place components)
        (after.run follow place components) := by
    rw [run_at_none adds.vacant]
    exact at_place components
  refine run_rel (Stop.Grows place) (fun _ => True) (fun _ _ => .kept rfl) (fun here _ => ?_)
    (fun here name rest _ => ?_) trivial components
  · by_cases same : here = place
    · exact same ▸ at_vacant []
    · exact .kept (by simp only [run, adds.others here same])
  · by_cases same : here = place
    · exact .inr (same ▸ at_vacant (name :: rest))
    have kind : (after.node? here).map Node.isDirectory
        = (before.node? here).map Node.isDirectory := by rw [adds.others here same]
    rcases step_alike kind name with ⟨as_before, -⟩ | ⟨into, into'⟩
    · exact .inl ⟨as_before, fun _ _ => trivial⟩
    by_cases next : name :: here = place
    · refine .inr ?_
      rw [run_cons, run_cons, into, into', next, adds.vacant, held, Step.into_of_isFile regular]
      exact at_place rest
    · exact .inl ⟨by rw [into, into', adds.others _ next], fun _ _ => trivial⟩

/-- What becomes of a look-up when a file is added: it leads where it led, or, where it missed
something, to the file. -/
inductive Grows (place : Place) (first second : Except LookupFault (Place × Node)) : Prop where
  | kept (same : second = first)
  | reached (missed : first = .error .missing) (regular : node.isFile = true)
      (found : second = .ok (place, node))
  | blocked (missed : first = .error .missing) (refused : second = .error .notDirectory)

theorem walk_grows (adds : before.AddsFile after place) (follow : Bool) (links : Nat) (here : Place)
    (components : List Text) :
    Grows place (before.walk follow links here components)
      (after.walk follow links here components) := by
  refine walk_rel (Grows place) (fun _ => True) trivial (.kept rfl) (fun here components _ => ?_)
    links trivial components
  cases run_grows adds follow here components with
  | reached missed regular found =>
    exact .inr fun links => .reached (walk_of_failed missed links) regular
      (walk_of_arrived found links)
  | blocked missed refused =>
    exact .inr fun links => .blocked (walk_of_failed missed links) (walk_of_failed refused links)
  | kept same =>
    rcases link_or_walk_eq same with ⟨directory, target, rest, stop⟩ | equal
    · exact .inl ⟨directory, target, rest, stop, same.trans stop, trivial⟩
    · exact .inr fun links => .kept (equal links)

end FileTree

namespace Host

/-- The second host adds a file to the tree of the first; the working directory and the room on the
stack are the same. -/
structure AddsFile (before after : Host) (place : Place) : Prop where
  tree : before.tree.AddsFile after.tree place
  directory : after.directory? = before.directory?
  room : after.room = before.room

/-- A path leads to a place, links followed. -/
def Reaches (h : Host) (path : Text) (place : Place) : Prop :=
  ∃ node, h.lookup true path = .ok (place, node)

variable {before after : Host} {place : Place} {path : Text}

theorem lookup_grows (adds : before.AddsFile after place) (follow : Bool) (path : Text) :
    FileTree.Grows place (before.lookup follow path) (after.lookup follow path) := by
  have start : after.start? = before.start? := by simp [start?, adds.directory]
  unfold lookup FileTree.lookup
  rw [start]
  split
  · exact .kept rfl
  · split
    · exact .kept rfl
    · split
      · exact .kept rfl
      · split
        · exact FileTree.walk_grows adds.tree follow _ _ _
        · cases before.start? with
          | none => exact .kept rfl
          | some start => exact FileTree.walk_grows adds.tree follow _ _ _

/-- No path becomes a directory, and no directory is lost. -/
theorem isDirectory_of_adds (adds : before.AddsFile after place) (path : Text) :
    after.isDirectory path = before.isDirectory path := by
  cases lookup_grows adds true path with
  | kept same => simp only [isDirectory, same]
  | @reached node missed regular found =>
    simp only [isDirectory, missed, found]
    cases node with
    | directory => cases regular
    | _ => rfl
  | blocked missed refused => simp only [isDirectory, missed, refused]

/-- A path that names a file leads where it led. -/
theorem lookup_of_adds (adds : before.AddsFile after place) (held : before.isFile path = true) :
    after.lookup true path = before.lookup true path := by
  cases lookup_grows adds true path with
  | kept same => exact same
  | reached missed | blocked missed =>
    rw [isFile, missed] at held
    cases held

theorem isFile_of_adds (adds : before.AddsFile after place) (held : before.isFile path = true) :
    after.isFile path = true := by
  unfold isFile at held ⊢
  rwa [lookup_of_adds adds held]

theorem readJson_of_adds (adds : before.AddsFile after place) (held : before.isFile path = true) :
    after.readJson path = before.readJson path := by
  simp only [readJson, readText, lookup_of_adds adds held, adds.room]

/-- A path that newly names a file leads to the one that was added. -/
theorem reaches_of_adds (adds : before.AddsFile after place) (missed : before.isFile path = false)
    (held : after.isFile path = true) : after.Reaches path place := by
  cases lookup_grows adds true path with
  | kept same =>
    rw [isFile, same, ← isFile, missed] at held
    cases held
  | reached _ _ found => exact ⟨_, found⟩
  | blocked _ refused =>
    rw [isFile, refused] at held
    cases held

end Host
end ImportResolution
