import ImportResolution.FileTree.Lookup
import ImportResolution.Proofs.Path.NormalForm

/-! Steps of a look-up. A component of a path is decided by what stands at the place that a run has
come to, or else by what stands below it under this name: the run goes on at a place, fails, or
meets a link. What is said about runs is said about one step first. -/
namespace ImportResolution

theorem Node.isDirectory_of_isFile {node : Node} (regular : node.isFile = true) :
    node.isDirectory = false := by
  cases node with
  | directory => cases regular
  | _ => rfl

namespace FileTree

/-- What a component does to a run. -/
inductive Step where
  | goes (place : Place)
  | fails (fault : LookupFault)
  | meets (target : Text)

/-- The step of a component at a place, as far as what stands there decides it. -/
def Step.here? (place : Place) (name : Text) : Option Node → Option Step
  | none => some (.fails .missing)
  | some node =>
    if !node.isDirectory then some (.fails .notDirectory)
    else if name = [] ∨ name = Path.here then some (.goes place)
    else if name = Path.up then some (.goes place.tail)
    else if nameLimit < Utf8.encodedLength name then some (.fails .nameTooLong)
    else none

/-- The step into a place, which what stands there decides. -/
def Step.into (place : Place) : Option Node → Step
  | none => .fails .missing
  | some (.link target) => .meets target
  | some _ => .goes place

/-- The step of a component at a place. -/
def step (t : FileTree) (here : Place) (name : Text) : Step :=
  (Step.here? here name (t.node? here)).getD (.into (name :: here) (t.node? (name :: here)))

/-- Where a run stops after the step of a component. -/
def Step.stop (t : FileTree) (follow : Bool) (here : Place) (name : Text) (rest : List Text) :
    Step → Stop
  | .goes place => t.run follow place rest
  | .fails fault => .failed fault
  | .meets target =>
    if rest = [] ∧ !follow then .arrived (name :: here) (.link target)
    else .atLink here target rest

variable {t t' : FileTree} {follow : Bool} {here place : Place} {name target : Text} {node : Node}
  {fault : LookupFault} {found found' : Option Node} {components : List Text}

/-- A run takes one step for each component. -/
theorem run_cons (t : FileTree) (follow : Bool) (here : Place) (name : Text) (rest : List Text) :
    t.run follow here (name :: rest) = (t.step here name).stop t follow here name rest := by
  unfold run step
  cases t.node? here with
  | none => rfl
  | some node =>
    simp only [Step.here?]
    split
    · rfl
    split
    · rfl
    split
    · rfl
    split
    · rfl
    simp only [Option.getD_none]
    cases t.node? (name :: here) with
    | none => rfl
    | some below => cases below <;> rfl

/-! ### What a step can do -/

/-- What stands at a place lets a run stay or go back, but not along a name, or it stops the run,
and not for a link. -/
theorem Step.here?_cases {step : Step} (decided : Step.here? place name found = some step) :
    (∃ next, step = .goes next ∧ next <:+ place ∧ ¬ Path.IsName name) ∨
      ∃ fault, step = .fails fault ∧ fault ≠ .tooManyLinks := by
  cases found with
  | none =>
    cases decided
    exact .inr ⟨_, rfl, nofun⟩
  | some node =>
    simp only [Step.here?] at decided
    split at decided
    · cases decided
      exact .inr ⟨_, rfl, nofun⟩
    split at decided
    · rename_i stays
      cases decided
      exact .inl ⟨place, rfl, List.suffix_refl place,
        fun valid => stays.elim valid.nonempty valid.not_here⟩
    split at decided
    · rename_i back
      cases decided
      exact .inl ⟨place.tail, rfl, List.tail_suffix place, fun valid => valid.not_up back⟩
    split at decided
    · cases decided
      exact .inr ⟨_, rfl, nofun⟩
    · cases decided

/-- A step is decided by what stands at the place, and then it leads no further down, or by what
stands below. -/
theorem step_cases (t : FileTree) (here : Place) (name : Text) :
    (∃ next, t.step here name = .goes next ∧ next <:+ here ∧ ¬ Path.IsName name) ∨
      (∃ fault, t.step here name = .fails fault ∧ fault ≠ .tooManyLinks) ∨
      t.step here name = .into (name :: here) (t.node? (name :: here)) := by
  unfold step
  cases decided : Step.here? here name (t.node? here) with
  | none => exact .inr (.inr rfl)
  | some step =>
    rcases Step.here?_cases decided with onward | failed
    · exact .inl onward
    · exact .inr (.inl failed)

/-- A step into a place leads there, if it leads on. -/
theorem Step.eq_of_into {next : Place} (on : Step.into place found = .goes next) : next = place := by
  unfold Step.into at on
  split at on <;> cases on
  rfl

theorem Step.into_of_isFile (regular : node.isFile = true) (place : Place) :
    Step.into place (some node) = .goes place := by
  cases node with
  | link target => cases regular
  | _ => rfl

/-- Along a name, a step leads below the place, if it leads on. -/
theorem place_of_goes {next : Place} (valid : Path.IsName name)
    (on : t.step here name = .goes next) : next = name :: here := by
  rcases step_cases t here name with ⟨back, -, -, moves⟩ | ⟨fault, failed, -⟩ | below
  · exact absurd valid moves
  · cases on.symm.trans failed
  · exact Step.eq_of_into (below.symm.trans on)

/-- A link that is met stands below the place, under the name of the component. -/
theorem node?_of_meets (met : t.step here name = .meets target) :
    t.node? (name :: here) = some (.link target) := by
  rcases step_cases t here name with ⟨next, on, -⟩ | ⟨fault, failed, -⟩ | below
  · cases met.symm.trans on
  · cases met.symm.trans failed
  · rw [below] at met
    unfold Step.into at met
    split at met <;> cases met
    assumption

/-- No step fails for the number of links. -/
theorem ne_tooManyLinks_of_fails (failed : t.step here name = .fails fault) :
    fault ≠ .tooManyLinks := by
  rcases step_cases t here name with ⟨next, on, -⟩ | ⟨fault', failed', other⟩ | below
  · cases failed.symm.trans on
  · cases failed.symm.trans failed'
    exact other
  · rw [below] at failed
    unfold Step.into at failed
    split at failed <;> cases failed
    exact nofun

/-! ### Runs -/

/-- Where a run arrives stands the node that it arrives at. -/
theorem node?_of_run (arrived : t.run follow here components = .arrived place node) :
    t.node? place = some node := by
  induction components generalizing here with
  | nil =>
    unfold run at arrived
    split at arrived <;> cases arrived
    assumption
  | cons name rest ih =>
    rw [run_cons] at arrived
    cases taken : t.step here name with
    | goes next =>
      rw [taken] at arrived
      exact ih arrived
    | fails fault =>
      rw [taken] at arrived
      cases arrived
    | meets target =>
      simp only [taken, Step.stop] at arrived
      split at arrived <;> cases arrived
      exact node?_of_meets taken

theorem mem_of_node? (held : t.node? place = some node) (below : place ≠ []) :
    (place, node) ∈ t.nodes := by
  rw [node?, if_neg below] at held
  generalize t.nodes = nodes at held ⊢
  induction nodes with
  | nil => cases held
  | cons entry nodes ih =>
    unfold find? at held
    split at held
    · rename_i same
      cases held
      rw [← same]
      exact List.mem_cons_self ..
    · exact List.mem_cons_of_mem _ (ih held)

theorem node?_of_walk {links : Nat}
    (found : t.walk follow links here components = .ok (place, node)) : t.node? place = some node := by
  induction links generalizing here components with
  | zero =>
    unfold walk at found
    split at found <;> cases found
    exact node?_of_run ‹_›
  | succ links ih =>
    unfold walk at found
    split at found
    · cases found
      exact node?_of_run ‹_›
    · cases found
    · exact ih found

/-- What a lookup gives stands in the tree. -/
theorem node?_of_lookup {start? : Option Place} {path : Text}
    (found : t.lookup start? follow path = .ok (place, node)) : t.node? place = some node := by
  unfold lookup at found
  split at found
  · cases found
  split at found
  · cases found
  split at found
  · cases found
  split at found
  · exact node?_of_walk found
  · split at found
    · cases found
    · exact node?_of_walk found

/-- No run goes on where nothing stands. -/
theorem run_at_none (vacant : t.node? here = none) (follow : Bool) (components : List Text) :
    t.run follow here components = .failed .missing := by
  cases components with
  | nil => simp [run, vacant]
  | cons name rest => simp [run, vacant]

/-- A node that is no directory ends a run; no component can follow it. -/
theorem run_at_closed (held : t.node? here = some node) (closed : node.isDirectory = false)
    (follow : Bool) (components : List Text) :
    t.run follow here components
      = if components = [] then .arrived here node else .failed .notDirectory := by
  cases components with
  | nil => simp [run, held]
  | cons name rest => simp [run, held, closed]

/-- The components of a run may be gone along in two parts. -/
theorem run_append (t : FileTree) (here : Place) (front back : List Text) :
    t.run true here (front ++ back) = match t.run true here front with
      | .arrived place _ => t.run true place back
      | .failed fault => .failed fault
      | .atLink directory target rest => .atLink directory target (rest ++ back) := by
  induction front generalizing here with
  | nil =>
    cases held : t.node? here with
    | some node => simp [run, held]
    | none => cases back <;> simp [run, held]
  | cons name rest ih =>
    rw [List.cons_append, run_cons, run_cons]
    cases t.step here name with
    | goes next => exact ih next
    | fails fault => rfl
    | meets target => simp [Step.stop]

/-- A run that does not follow a link at its end stops there, and otherwise as one that does. -/
theorem run_unfollowed (t : FileTree) (here : Place) (components : List Text) :
    t.run false here components = t.run true here components ∨
      ∃ name above target, t.run false here components = .arrived (name :: above) (.link target) ∧
        t.run true here components = .atLink above target [] := by
  induction components generalizing here with
  | nil => exact .inl (by simp [run])
  | cons name rest ih =>
    rw [run_cons, run_cons]
    cases t.step here name with
    | goes next => exact ih next
    | fails fault => exact .inl rfl
    | meets target =>
      by_cases last : rest = []
      · exact .inr ⟨name, here, target, by simp [Step.stop, last], by simp [Step.stop, last]⟩
      · exact .inl (by simp [Step.stop, last])

/-! ### Runs in two trees -/

theorem Step.here?_congr (same : found'.map Node.isDirectory = found.map Node.isDirectory)
    (place : Place) (name : Text) :
    Step.here? place name found' = Step.here? place name found := by
  cases found with
  | none =>
    cases found' with
    | none => rfl
    | some node => cases same
  | some node =>
    cases found' with
    | none => cases same
    | some node' =>
      have kind : node'.isDirectory = node.isDirectory := by simpa using same
      simp only [Step.here?, kind]

/-- Where both trees have a directory at a place, or none of them has, a component does the same in
both and leads no further down, not along a name, or what stands below decides in both. -/
theorem step_alike (same : (t'.node? here).map Node.isDirectory = (t.node? here).map Node.isDirectory)
    (name : Text) :
    (t'.step here name = t.step here name ∧
      ∀ next, t.step here name = .goes next → next <:+ here ∧ ¬ Path.IsName name) ∨
    (t.step here name = .into (name :: here) (t.node? (name :: here)) ∧
      t'.step here name = .into (name :: here) (t'.node? (name :: here))) := by
  simp only [step, Step.here?_congr same]
  cases decided : Step.here? here name (t.node? here) with
  | none => exact .inr ⟨rfl, rfl⟩
  | some step =>
    refine .inl ⟨rfl, ?_⟩
    rintro next rfl
    rcases Step.here?_cases decided with ⟨_, ⟨⟩, back⟩ | ⟨_, ⟨⟩, -⟩
    exact back

/-- Two runs stop in related ways if they do where no component is left, and each component leads
both from a place inside to another place inside, or lets them stop in related ways. -/
theorem run_rel (R : Stop → Stop → Prop) (inside : Place → Prop)
    (alike : ∀ stop, (∀ directory target rest, stop = .atLink directory target rest →
      inside directory) → R stop stop)
    (ended : ∀ here, inside here → R (t.run follow here []) (t'.run follow here []))
    (steps : ∀ here name rest, inside here →
      (t'.step here name = t.step here name ∧
        ∀ next, t.step here name = .goes next → inside next) ∨
      R (t.run follow here (name :: rest)) (t'.run follow here (name :: rest)))
    (start : inside here) (components : List Text) :
    R (t.run follow here components) (t'.run follow here components) := by
  induction components generalizing here with
  | nil => exact ended here start
  | cons name rest ih =>
    rcases steps here name rest start with ⟨same, inner⟩ | settled
    · rw [run_cons, run_cons, same]
      cases taken : t.step here name with
      | goes next => exact ih (inner next taken)
      | fails fault => exact alike _ nofun
      | meets target =>
        simp only [Step.stop]
        split
        · exact alike _ nofun
        · refine alike _ ?_
          rintro directory target rest ⟨⟩
          exact start
    · exact settled

end FileTree
end ImportResolution
