import ImportResolution.Event

/-!
Trails of a search. A search probes one path after the other until one is a file; its trail holds
how it ended, every path that was probed, in order, and the events on the way. Trails form a monoid
under "and then, if nothing was found", so a search is put together from its probes.
-/
namespace ImportResolution.Module

/-- How a search ends: at a file, without one, or with a fault that cuts it short. -/
inductive Verdict where
  | hit (path : Text)
  | miss
  | failed (fault : Fault)
  deriving DecidableEq, Repr

/-- A search that has ended. -/
structure Trail where
  verdict : Verdict
  candidates : List Text
  events : List Event
  deriving DecidableEq, Repr

namespace Trail

/-- The search that probes nothing. -/
def miss : Trail := ⟨.miss, [], []⟩

/-- The search that a fault cuts short before anything is probed. -/
def failed (fault : Fault) : Trail := ⟨.failed fault, [], []⟩

/-- The first search, and the second one if the first found nothing. -/
def orElse (first : Trail) (second : Unit → Trail) : Trail :=
  match first.verdict with
  | .miss =>
    let next := second ()
    ⟨next.verdict, first.candidates ++ next.candidates, first.events ++ next.events⟩
  | _ => first

/-- A search before which events occur. -/
def after (events : List Event) (t : Trail) : Trail := { t with events := events ++ t.events }

@[simp] theorem miss_orElse (second : Unit → Trail) : miss.orElse second = second () := by
  simp [miss, orElse]

@[simp] theorem orElse_miss (first : Trail) : (first.orElse fun _ => miss) = first := by
  unfold orElse miss
  split
  · cases first; simp_all
  · rfl

theorem verdict_orElse (first : Trail) (second : Unit → Trail) :
    (first.orElse second).verdict = match first.verdict with
      | .miss => (second ()).verdict
      | verdict => verdict := by
  cases held : first.verdict <;> simp [orElse, held]

end Trail
end ImportResolution.Module
