/-! Outcomes that are made of others: a step applied to an answer, and one that follows
an answer. -/
namespace ImportResolution

/-- What is made of an answer stems from one. -/
theorem Except.map_eq_ok {ε α β : Type} {outcome : Except ε α} {f : α → β} {made : β} :
    outcome.map f = .ok made ↔ ∃ answer, outcome = .ok answer ∧ f answer = made := by
  cases outcome <;> simp [Except.map]

/-- A fault passes through what is made of answers. -/
theorem Except.map_eq_error {ε α β : Type} {outcome : Except ε α} {f : α → β} {fault : ε} :
    outcome.map f = .error fault ↔ outcome = .error fault := by
  cases outcome <;> simp [Except.map]

/-- Where two steps give an answer, both do. -/
theorem Except.bind_eq_ok {ε α β : Type} {outcome : Except ε α} {next : α → Except ε β} {last : β} :
    outcome.bind next = .ok last ↔ ∃ answer, outcome = .ok answer ∧ next answer = .ok last := by
  cases outcome <;> simp [Except.bind]

theorem Except.mapError_ok {ε ε' α : Type} (f : ε → ε') (answer : α) :
    (Except.ok answer : Except ε α).mapError f = .ok answer := rfl

theorem Except.mapError_error {ε ε' α : Type} (f : ε → ε') (fault : ε) :
    (Except.error fault : Except ε α).mapError f = .error (f fault) := rfl

theorem Except.mapError_eq_ok {ε ε' α : Type} {outcome : Except ε α} {f : ε → ε'} {answer : α} :
    outcome.mapError f = .ok answer ↔ outcome = .ok answer := by
  cases outcome <;> simp [Except.mapError_ok, Except.mapError_error]

/-- Two ways to go on that agree on every answer that there is. -/
theorem Except.bind_congr {ε α β : Type} {outcome : Except ε α} {next other : α → Except ε β}
    (agree : ∀ answer, outcome = .ok answer → next answer = other answer) :
    outcome.bind next = outcome.bind other := by
  cases outcome with
  | error fault => rfl
  | ok answer => exact agree answer rfl

end ImportResolution
