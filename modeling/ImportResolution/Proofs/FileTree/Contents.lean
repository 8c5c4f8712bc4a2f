import ImportResolution.Proofs.FileTree.Steps
import ImportResolution.Proofs.Host.Root
import Mathlib.Data.List.Forall2

/-! What files hold. Look-ups ask where files stand and never what they hold, so files can be filled
with something else, and all paths lead where they led. -/
namespace ImportResolution

/-- A node where the regular files of some kind may be filled with one content: it is the same, or a
file of that kind is filled. -/
inductive Node.Refilled (kind : Node → Prop) (content : Content) : Node → Node → Prop where
  | kept (node : Node) : Refilled kind content node node
  | filled (regular : node.isFile = true) (spent : kind node) :
      Refilled kind content node (.file content)

namespace FileTree

/-- The second tree is the first one, some regular files of a kind filled with one content. A node
stands where one stood, and there are as many links. -/
structure Refills (kind : Node → Prop) (content : Content) (t t' : FileTree) : Prop where
  nodes (place : Place) :
    Option.Rel (Node.Refilled kind content) (t.node? place) (t'.node? place)
  links : t'.linkCount = t.linkCount

/-- Where runs stop in two such trees: alike, but for what the node they arrive at holds. -/
inductive Stop.Refilled (kind : Node → Prop) (content : Content) : Stop → Stop → Prop where
  | same (stop : Stop) : Refilled kind content stop stop
  | arrived (place : Place) (refilled : node.Refilled kind content node') :
      Refilled kind content (.arrived place node) (.arrived place node')

/-- Where look-ups lead in two such trees. -/
inductive Refilled (kind : Node → Prop) (content : Content) :
    Except LookupFault (Place × Node) → Except LookupFault (Place × Node) → Prop where
  | failed (fault : LookupFault) : Refilled kind content (.error fault) (.error fault)
  | led (place : Place) (refilled : node.Refilled kind content node') :
      Refilled kind content (.ok (place, node)) (.ok (place, node'))

variable {kind : Node → Prop} {content : Content} {t t' : FileTree} {node node' : Node}

theorem refilled_refl (outcome : Except LookupFault (Place × Node)) :
    Refilled kind content outcome outcome := by
  cases outcome with
  | error fault => exact .failed fault
  | ok led => exact .led led.1 (.kept led.2)

theorem isDirectory_refilled (refilled : node.Refilled kind content node') :
    node'.isDirectory = node.isDirectory := by
  cases refilled with
  | kept => rfl
  | filled regular => cases node <;> first | rfl | cases regular

/-- A step into a place asks whether a link stands there, and files are none. -/
theorem into_refilled (refilled : node.Refilled kind content node') (place : Place) :
    Step.into place (some node') = Step.into place (some node) := by
  cases refilled with
  | kept => rfl
  | filled regular => rw [Step.into_of_isFile regular, Step.into_of_isFile rfl]

/-- A component does the same in both trees. -/
theorem step_refills (refills : t.Refills kind content t') (here : Place) (name : Text) :
    t'.step here name = t.step here name := by
  have kind : (t'.node? here).map Node.isDirectory = (t.node? here).map Node.isDirectory := by
    have stands := refills.nodes here
    generalize t.node? here = found, t'.node? here = found' at stands ⊢
    cases stands with
    | none => rfl
    | some refilled => simp only [Option.map_some, isDirectory_refilled refilled]
  rcases step_alike kind name with ⟨same, -⟩ | ⟨into, into'⟩
  · exact same
  · rw [into, into']
    have below := refills.nodes (name :: here)
    generalize t.node? (name :: here) = next, t'.node? (name :: here) = next' at below ⊢
    cases below with
    | none => rfl
    | some refilled => exact into_refilled refilled (name :: here)

theorem run_refills (refills : t.Refills kind content t') (follow : Bool) (here : Place)
    (components : List Text) :
    Stop.Refilled kind content (t.run follow here components) (t'.run follow here components) := by
  refine run_rel (Stop.Refilled kind content) (fun _ => True) (fun stop _ => .same stop)
    (fun here _ => ?_)
    (fun here name _ _ => .inl ⟨step_refills refills here name, fun _ _ => trivial⟩)
    trivial components
  unfold run
  have stands := refills.nodes here
  generalize t.node? here = found, t'.node? here = found' at stands ⊢
  cases stands with
  | none => exact .same _
  | some refilled => exact .arrived here refilled

theorem walk_refills (refills : t.Refills kind content t') (follow : Bool) (links : Nat)
    (here : Place) (components : List Text) :
    Refilled kind content (t.walk follow links here components)
      (t'.walk follow links here components) := by
  refine walk_rel (Refilled kind content) (fun _ => True) trivial (.failed _)
    (fun here components _ => ?_) links trivial components
  have stops := run_refills refills follow here components
  generalize ended : t.run follow here components = stop,
    ended' : t'.run follow here components = stop' at stops
  cases stops with
  | arrived place refilled =>
    refine .inr fun links => ?_
    rw [walk_of_arrived ended, walk_of_arrived ended']
    exact .led place refilled
  | same =>
    rcases link_or_walk_eq (ended'.trans ended.symm) with ⟨directory, target, rest, linked⟩ | equal
    · have stopped := ended.symm.trans linked
      exact .inl ⟨directory, target, rest, stopped, stopped, trivial⟩
    · refine .inr fun links => ?_
      rw [equal]
      exact refilled_refl _

/-- Entries that are filled one by one give such a tree. -/
theorem refills_of_entries {entries entries' : List (Place × Node)}
    (filled : List.Forall₂
      (fun entry entry' => entry'.1 = entry.1 ∧ entry.2.Refilled kind content entry'.2)
      entries entries') :
    Refills kind content ⟨entries⟩ ⟨entries'⟩ := by
  constructor
  · intro place
    unfold node?
    split
    · exact .some (.kept _)
    induction filled with
    | nil => exact .none
    | cons first _ ih =>
      obtain ⟨same, refilled⟩ := first
      unfold find?
      rw [same]
      split
      · exact .some refilled
      · exact ih
  · simp only [linkCount]
    induction filled with
    | nil => rfl
    | @cons entry entry' _ _ first _ ih =>
      obtain ⟨place, node⟩ := entry
      obtain ⟨place', node'⟩ := entry'
      rw [List.countP_cons, List.countP_cons, ih]
      cases first.2 with
      | kept => rfl
      | filled regular => cases node <;> first | rfl | cases regular

end FileTree

namespace Host

/-- The second host has the tree of the first, some regular files of a kind filled with one content,
the same working directory and the same room on the stack. -/
structure Refills (kind : Node → Prop) (content : Content) (h h' : Host) : Prop where
  tree : h.tree.Refills kind content h'.tree
  directory : h'.directory? = h.directory?
  room : h'.room = h.room

variable {kind : Node → Prop} {content : Content} {h h' : Host} {path : Text}

/-- Every path leads to the same place, or nowhere for the same reason. -/
theorem lookup_refills (refills : h.Refills kind content h') (follow : Bool) (path : Text) :
    FileTree.Refilled kind content (h.lookup follow path) (h'.lookup follow path) := by
  have start : h'.start? = h.start? := by simp only [start?, refills.directory]
  unfold lookup FileTree.lookup
  rw [start]
  split
  · exact .failed _
  split
  · exact .failed _
  split
  · exact .failed _
  split
  · exact FileTree.walk_refills refills.tree follow _ _ _
  · cases h.start? with
    | none => exact .failed _
    | some start => exact FileTree.walk_refills refills.tree follow _ _ _

theorem isFile_refills (refills : h.Refills kind content h') (path : Text) :
    h'.isFile path = h.isFile path := by
  unfold isFile
  have leads := lookup_refills refills true path
  generalize h.lookup true path = led, h'.lookup true path = led' at leads ⊢
  cases leads with
  | failed => rfl
  | led place refilled =>
    cases refilled with
    | kept => rfl
    | filled regular => exact regular.symm

theorem isDirectory_refills (refills : h.Refills kind content h') (path : Text) :
    h'.isDirectory path = h.isDirectory path := by
  unfold isDirectory
  have leads := lookup_refills refills true path
  generalize h.lookup true path = led, h'.lookup true path = led' at leads ⊢
  cases leads with
  | failed => rfl
  | led place refilled => exact FileTree.isDirectory_refilled refilled

theorem linkTarget?_refills (refills : h.Refills kind content h') (path : Text) :
    h'.linkTarget? path = h.linkTarget? path := by
  unfold linkTarget?
  have leads := lookup_refills refills false path
  generalize h.lookup false path = led, h'.lookup false path = led' at leads ⊢
  cases leads with
  | failed => rfl
  | @led node _ place refilled =>
    cases refilled with
    | kept => rfl
    | filled regular => cases node <;> first | rfl | cases regular

theorem absolute_refills (refills : h.Refills kind content h') : h'.absolute = h.absolute := by
  funext path
  simp only [absolute, workingDirectory, refills.directory]

/-- Canonical forms are the same. -/
theorem canonical_refills (refills : h.Refills kind content h') (path : Text) :
    h'.canonical path = h.canonical path := by
  refine canonical_congr refills.directory refills.room (funext (linkTarget?_refills refills)) ?_
    (fun path => ?_) path
  · simp only [resolutionLimit, refills.tree.links]
  · have leads := lookup_refills refills true path
    generalize h.lookup true path = led, h'.lookup true path = led' at leads ⊢
    cases leads with
    | failed => exact Iff.rfl
    | led => simp

theorem startingPoint_refills (refills : h.Refills kind content h') (start? : Option Text) :
    h'.startingPoint start? = h.startingPoint start? :=
  startingPoint_congr refills.directory (canonical_refills refills) start?

end Host
end ImportResolution
