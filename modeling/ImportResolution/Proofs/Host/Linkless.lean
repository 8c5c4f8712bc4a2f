import ImportResolution.Proofs.Host.NullFree

/-! Trees without links. There a path is looked up in one run along its names, canonical forms
depend on the working directory alone, and a change of a tree is seen only by the paths that lead
there. -/
namespace ImportResolution

namespace FileTree

variable {t t' : FileTree} {follow : Bool} {here place : Place} {node : Node} {name : Text}
  {names components : List Text}

/-- A tree has no link. -/
def Linkless (t : FileTree) : Prop := ∀ place target, (place, Node.link target) ∉ t.nodes

theorem node?_ne_link (linkless : t.Linkless) (place : Place) (target : Text) :
    t.node? place ≠ some (.link target) := by
  intro held
  by_cases root : place = []
  · rw [root] at held
    cases held
  · exact linkless place target (mem_of_node? held root)

theorem linkless_set (linkless : t.Linkless) (plain : ∀ target, node ≠ .link target)
    (place : Place) : (t.set place node).Linkless := by
  intro other target member
  rcases List.mem_cons.mp member with put | member
  · exact plain target (Prod.mk.inj put).2.symm
  · exact linkless other target (List.mem_filter.mp member).1

theorem linkless_erase (linkless : t.Linkless) (place : Place) : (t.erase place).Linkless :=
  fun other target member => linkless other target (List.mem_filter.mp member).1

/-- Where a run ends, as the outcome of a lookup that follows no link any more. -/
def Stop.outcome : Stop → Except LookupFault (Place × Node)
  | .arrived place node => .ok (place, node)
  | .failed fault => .error fault
  | .atLink _ _ _ => .error .tooManyLinks

/-- Without links a run arrives or fails, and not for a link. -/
theorem run_linkless (linkless : t.Linkless) (follow : Bool) (here : Place)
    (components : List Text) :
    (∃ place node, t.run follow here components = .arrived place node) ∨
      ∃ fault, fault ≠ .tooManyLinks ∧ t.run follow here components = .failed fault := by
  induction components generalizing here with
  | nil =>
    unfold run
    split
    · exact .inl ⟨_, _, rfl⟩
    · exact .inr ⟨.missing, by decide, rfl⟩
  | cons name rest ih =>
    rw [run_cons]
    cases taken : t.step here name with
    | goes next => exact ih next
    | fails fault => exact .inr ⟨fault, ne_tooManyLinks_of_fails taken, rfl⟩
    | meets target => exact absurd (node?_of_meets taken) (node?_ne_link linkless _ _)

theorem walk_linkless (linkless : t.Linkless) (links : Nat) :
    t.walk follow links here components = (t.run follow here components).outcome := by
  unfold walk
  rcases run_linkless linkless follow here components with ⟨place, node, arrived⟩ |
    ⟨fault, -, failed⟩
  · rw [arrived]
    rfl
  · rw [failed]
    rfl

/-- Without links, a step into a place leads on from there, whatever stands in it. -/
theorem stop_into (linkless : t.Linkless) (follow : Bool) (here : Place) (name : Text)
    (rest : List Text) :
    (Step.into (name :: here) (t.node? (name :: here))).stop t follow here name rest
      = t.run follow (name :: here) rest := by
  cases held : t.node? (name :: here) with
  | none => exact (run_at_none held follow rest).symm
  | some node =>
    cases node with
    | link target => exact absurd held (node?_ne_link linkless _ _)
    | _ => rfl

/-- Along names a run arrives, if it does, where they lead. -/
theorem place_of_run (linkless : t.Linkless) (plain : ∀ name ∈ names, Path.IsName name)
    (arrived : t.run follow here names = .arrived place node) : place = names.reverse ++ here := by
  induction names generalizing here with
  | nil =>
    unfold run at arrived
    split at arrived <;> cases arrived
    rfl
  | cons name rest ih =>
    obtain ⟨valid, others⟩ := List.forall_mem_cons.mp plain
    rcases run_name t here valid with on | ⟨fault, -, failed⟩ | ⟨target, linked⟩
    · rw [on] at arrived
      rw [ih others arrived, List.reverse_cons, List.append_assoc, List.singleton_append]
    · rw [failed] at arrived
      cases arrived
    · exact absurd (node?_of_run linked) (node?_ne_link linkless _ _)

/-! ### Trees that differ in a few places -/

/-- A fault of a path that leads to nothing. -/
def LookupFault.Misses (fault : LookupFault) : Prop := fault = .missing ∨ fault = .notDirectory

/-- Where no directory stands, no name can follow. -/
theorem run_misses (closed : t.node? here ≠ some .directory) (follow : Bool) (name : Text)
    (rest : List Text) :
    ∃ fault, fault.Misses ∧ t.run follow here (name :: rest) = .failed fault := by
  cases held : t.node? here with
  | none => exact ⟨.missing, .inl rfl, run_at_none held follow _⟩
  | some node =>
    refine ⟨.notDirectory, .inr rfl, ?_⟩
    cases node with
    | directory => exact absurd held closed
    | _ => exact run_at_closed held rfl follow (name :: rest)

/-- Two trees are alike but for some places and what is below them; and in none of these places
stands a directory. -/
structure AlikeBut (t t' : FileTree) (changed : Place → Prop) : Prop where
  closed : ∀ place, changed place → t.node? place ≠ some .directory
  closed' : ∀ place, changed place → t'.node? place ≠ some .directory
  elsewhere : ∀ place, (∀ other, changed other → ¬ other <:+ place) → t'.node? place = t.node? place

/-- How the runs to a place through two trees end: alike, on the way with a miss, or at what stands
in the place, if it has changed. -/
inductive Stop.Alike (t t' : FileTree) (follow : Bool) (changed : Place → Prop) (place : Place) :
    Stop → Stop → Prop where
  | same (stop : Stop) : Alike t t' follow changed place stop stop
  | missed {fault fault' : LookupFault} (first : fault.Misses) (second : fault'.Misses) :
      Alike t t' follow changed place (.failed fault) (.failed fault')
  | reached (there : changed place) :
      Alike t t' follow changed place (t.run follow place []) (t'.run follow place [])

/-- Along names, two trees are told apart only by a place in which they differ. -/
theorem run_alike (linkless : t.Linkless) (linkless' : t'.Linkless) {changed : Place → Prop}
    (alike : t.AlikeBut t' changed) (plain : ∀ name ∈ names, Path.IsName name) (follow : Bool)
    (outside : ∀ other, changed other → ¬ other <:+ here) :
    Stop.Alike t t' follow changed (names.reverse ++ here) (t.run follow here names)
      (t'.run follow here names) := by
  induction names generalizing here with
  | nil =>
    have same := alike.elsewhere here outside
    simp only [run, same]
    exact .same _
  | cons name rest ih =>
    obtain ⟨valid, others⟩ := List.forall_mem_cons.mp plain
    have kind : (t'.node? here).map Node.isDirectory = (t.node? here).map Node.isDirectory := by
      rw [alike.elsewhere here outside]
    rw [run_cons, run_cons]
    rcases step_alike kind name with ⟨same, back⟩ | ⟨into, into'⟩
    · rw [same]
      cases taken : t.step here name with
      | goes next => exact absurd valid (back next taken).2
      | fails fault => exact .same _
      | meets target => exact absurd (node?_of_meets taken) (node?_ne_link linkless _ _)
    · rw [into, into', stop_into linkless, stop_into linkless', List.reverse_cons,
        List.append_assoc, List.singleton_append]
      by_cases there : changed (name :: here)
      · cases rest with
        | nil => exact .reached there
        | cons next rest =>
          obtain ⟨fault, misses, failed⟩ := run_misses (alike.closed _ there) follow next rest
          obtain ⟨fault', misses', failed'⟩ := run_misses (alike.closed' _ there) follow next rest
          rw [failed, failed']
          exact .missed misses misses'
      · refine ih others fun other moved below => ?_
        rcases List.suffix_cons_iff.mp below with rfl | above
        · exact there moved
        · exact outside other moved above

theorem linkCount_linkless (linkless : t.Linkless) : t.linkCount = 0 := by
  refine List.countP_eq_zero.mpr ?_
  rintro ⟨place, node⟩ member
  cases node with
  | link target => exact absurd member (linkless place target)
  | _ => simp

end FileTree

namespace Host

variable {h h' : Host} {path : Text}

theorem linkTarget?_linkless (linkless : h.tree.Linkless) (path : Text) :
    h.linkTarget? path = none := by
  cases asked : h.linkTarget? path with
  | none => rfl
  | some target =>
    obtain ⟨place, stands⟩ := link_of_linkTarget? asked
    exact absurd stands (linkless place target)

theorem lookup_linkless (linkless : h.tree.Linkless) (follow : Bool) (path : Text) :
    h.lookup follow path ≠ .error .tooManyLinks := by
  have walked : ∀ here, h.tree.walk follow FileTree.linkLimit here (Text.segments path)
      ≠ .error .tooManyLinks := by
    intro here
    rw [FileTree.walk_linkless linkless]
    rcases FileTree.run_linkless linkless follow here (Text.segments path) with
      ⟨place, node, arrived⟩ | ⟨fault, other, failed⟩
    · rw [arrived]
      nofun
    · rw [failed]
      rintro ⟨⟩
      exact other rfl
  unfold lookup FileTree.lookup
  split
  · nofun
  split
  · nofun
  split
  · nofun
  split
  · exact walked []
  · split
    · nofun
    · exact walked _

/-- Without links, canonical forms depend on the working directory alone. -/
theorem canonical_linkless (linkless : h.tree.Linkless) (linkless' : h'.tree.Linkless)
    (same : h'.directory? = h.directory?) (room : h'.room = h.room) (path : Text) :
    h'.canonical path = h.canonical path := by
  refine canonical_congr same room ?_ ?_ (fun path => ?_) path
  · funext path
    rw [linkTarget?_linkless linkless, linkTarget?_linkless linkless']
  · simp only [resolutionLimit, FileTree.linkCount_linkless linkless,
      FileTree.linkCount_linkless linkless']
  · simp only [lookup_linkless linkless', lookup_linkless linkless]

theorem startingPoint_linkless (linkless : h.tree.Linkless) (linkless' : h'.tree.Linkless)
    (same : h'.directory? = h.directory?) (room : h'.room = h.room) (start? : Option Text) :
    h'.startingPoint start? = h.startingPoint start? :=
  startingPoint_congr same (canonical_linkless linkless linkless' same room) start?

/-- Along names, a path that can be looked up at all is one run from the root. -/
theorem lookup_names {p : PlainPath} (linkless : h.tree.Linkless) (rooted : p.slashes ≠ 0)
    (plain : ∀ name ∈ p.names, Path.IsName name) (admitted : Admits p.toText) (follow : Bool) :
    h.lookup follow p.toText = (h.tree.run follow [] p.names).outcome := by
  rw [lookup_of_admits follow admitted (PlainPath.isAbsolute_toText rooted),
    FileTree.walk_linkless linkless, FileTree.run_toText h.tree rooted plain]

/-- A path of names that names a file leads to what stands in the place of the names. -/
theorem lookup_of_isFile {p : PlainPath} {node : Node} (linkless : h.tree.Linkless)
    (rooted : p.slashes ≠ 0) (plain : ∀ name ∈ p.names, Path.IsName name)
    (held : h.isFile p.toText = true) (stands : h.tree.node? p.names.reverse = some node) :
    h.lookup true p.toText = .ok (p.names.reverse, node) := by
  unfold isFile at held
  split at held
  · rename_i place found asked
    have along := asked
    rw [lookup_names linkless rooted plain (admits_of_found asked)] at along
    rcases FileTree.run_linkless linkless true [] p.names with
      ⟨place', found', arrived⟩ | ⟨fault, -, failed⟩
    · rw [arrived] at along
      cases along
      have led := FileTree.place_of_run linkless plain arrived
      rw [List.append_nil] at led
      have there := FileTree.node?_of_run arrived
      rw [led, stands] at there
      rw [asked, led, Option.some.inj there]
    · rw [failed] at along
      cases along
  · cases held

/-- How the look-ups of a path in two hosts that are alike but for some places are related: they
end alike, or both with a miss, or at what stands in the place of the path, if it has changed. -/
theorem lookup_alike {changed : Place → Prop} {p : PlainPath} (linkless : h.tree.Linkless)
    (linkless' : h'.tree.Linkless) (alike : h.tree.AlikeBut h'.tree changed)
    (below : ∀ place, changed place → place ≠ []) (rooted : p.slashes ≠ 0)
    (plain : ∀ name ∈ p.names, Path.IsName name) :
    h'.lookup true p.toText = h.lookup true p.toText ∨
      (∃ fault fault', fault.Misses ∧ fault'.Misses ∧ h.lookup true p.toText = .error fault ∧
        h'.lookup true p.toText = .error fault') ∨
      changed p.names.reverse ∧
        h.lookup true p.toText = (h.tree.run true p.names.reverse []).outcome ∧
        h'.lookup true p.toText = (h'.tree.run true p.names.reverse []).outcome := by
  by_cases admitted : Admits p.toText
  · rw [lookup_names linkless rooted plain admitted, lookup_names linkless' rooted plain admitted]
    have ended := FileTree.run_alike linkless linkless' alike plain true
      fun other moved above => below other moved (List.suffix_nil.mp above)
    rw [List.append_nil] at ended
    generalize h.tree.run true [] p.names = stop, h'.tree.run true [] p.names = stop' at ended ⊢
    cases ended with
    | same => exact .inl rfl
    | missed misses misses' => exact .inr (.inl ⟨_, _, misses, misses', rfl, rfl⟩)
    | reached there => exact .inr (.inr ⟨there, rfl, rfl⟩)
  · obtain ⟨fault, -, refused⟩ := lookup_refused admitted
    exact .inl ((refused h' true).trans (refused h true).symm)

end Host
end ImportResolution
