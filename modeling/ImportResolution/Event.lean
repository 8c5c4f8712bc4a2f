import ImportResolution.Fault

/-!
What a run reports about its way to an answer, as data.
-/
namespace ImportResolution

/-- The part of the library that reports an event. -/
inductive Reporter where
  | discovery
  | resolution
  | search
  deriving DecidableEq, Repr

/-- A step worth reporting. -/
inductive Event where
  | readingConfiguration (path : Text)
  | usingSection (manifest : Text)
  | pluginNotListed (source plugin : Text)
  | configured (source directory : Text)
  | nothingFound (start : Text)
  | aliasMatched (source sign specifier : Text)
  | manifestIgnored (manifest : Text) (fault : ReadFault)
  | searchFailed (source file : Text) (fault : Fault)
  deriving DecidableEq, Repr

/-- Who reports an event. -/
def Event.reporter : Event → Reporter
  | readingConfiguration _ | usingSection _ | pluginNotListed _ _ | configured _ _
  | nothingFound _ => .discovery
  | aliasMatched _ _ _ => .resolution
  | manifestIgnored _ _ | searchFailed _ _ _ => .search

/-- The text of an event. -/
def Event.message : Event → Text
  | readingConfiguration path => "Reading ".toList ++ path
  | usingSection manifest => "Using 'babel' section of ".toList ++ manifest
  | pluginNotListed source plugin => source ++ " does not list ".toList ++ plugin
  | configured source directory =>
    "Root import configured in ".toList ++ source ++ ", root is ".toList ++ directory
  | nothingFound start => "No babel configuration found above ".toList ++ start
  | aliasMatched source sign specifier =>
    source.quoted ++ " matched alias ".toList ++ sign.quoted ++ ", rewritten to ".toList
      ++ specifier
  | manifestIgnored manifest fault =>
    "Ignoring unreadable ".toList ++ manifest ++ ": ".toList ++ fault.message
  | searchFailed source file fault =>
    "Resolving ".toList ++ source.quoted ++ " from ".toList ++ file ++ " failed: ".toList
      ++ fault.message

/-- An answer or a fault, with the events on the way to it. -/
structure Traced (α : Type) where
  outcome : Except Fault α
  events : List Event

namespace Traced

variable {α β : Type}

/-- An answer without events. -/
def answer (a : α) : Traced α := ⟨.ok a, []⟩

/-- A fault without events. -/
def fault (f : Fault) : Traced α := ⟨.error f, []⟩

/-- Reports an event. -/
def report (event : Event) : Traced Unit := ⟨.ok (), [event]⟩

/-- Goes on with the answer, if there is one; events stand in the order in which they occur. -/
def andThen (t : Traced α) (next : α → Traced β) : Traced β :=
  match t.outcome with
  | .error f => ⟨.error f, t.events⟩
  | .ok a => ⟨(next a).outcome, t.events ++ (next a).events⟩

instance : Monad Traced where
  pure := answer
  bind := andThen

@[simp] theorem outcome_pure (a : α) : (pure a : Traced α).outcome = .ok a := rfl

@[simp] theorem outcome_fault (f : Fault) : (fault f : Traced α).outcome = .error f := rfl

@[simp] theorem outcome_report (event : Event) : (report event).outcome = .ok () := rfl

@[simp] theorem outcome_bind (t : Traced α) (next : α → Traced β) :
    (t >>= next).outcome = t.outcome.bind fun a => (next a).outcome := by
  show (andThen t next).outcome = _
  unfold andThen
  cases t.outcome <;> rfl

end Traced
end ImportResolution
