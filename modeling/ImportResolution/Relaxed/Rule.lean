import ImportResolution.Text.CodeRange

/-!
Grammar rules with ordered choice. A rule looks at a place in a text and either finds something
and the place after it, or finds nothing. Besides it reports the farthest place at which a test
failed on the way, whether or not the rule as a whole succeeded; that place is what an error
message points at.
-/
namespace ImportResolution.Relaxed

/-- A place in a text: how many characters lie before it, and the characters after it. -/
structure Cursor where
  offset : Nat
  rest : Text

/-- What a rule finds, and the farthest offset at which a test failed. -/
structure Reply (α : Type) where
  found? : Option (α × Cursor)
  farthest : Nat

/-- A rule for things of type `α`. -/
def Rule (α : Type) := Cursor → Reply α

namespace Rule

variable {α β : Type}

/-- Finds the given thing and consumes nothing. -/
def found (a : α) : Rule α := fun c => ⟨some (a, c), 0⟩

/-- Fails at once. -/
def fail : Rule α := fun c => ⟨none, c.offset⟩

/-- One rule and then the rule that depends on what the first one found. -/
def andThen (r : Rule α) (next : α → Rule β) : Rule β := fun c =>
  match r c with
  | ⟨none, farthest⟩ => ⟨none, farthest⟩
  | ⟨some (a, after), farthest⟩ =>
    let reply := next a after
    ⟨reply.found?, max farthest reply.farthest⟩

instance : Monad Rule where
  pure := found
  bind := andThen

/-- The first rule, or the second one from the same place if the first finds nothing. -/
def orElse (first second : Rule α) : Rule α := fun c =>
  match first c with
  | ⟨some a, farthest⟩ => ⟨some a, farthest⟩
  | ⟨none, farthest⟩ =>
    let reply := second c
    ⟨reply.found?, max farthest reply.farthest⟩

instance : OrElse (Rule α) where
  orElse first second := orElse first (second ())

/-- Any one character. -/
def any : Rule Char := fun c =>
  match c.rest with
  | [] => ⟨none, c.offset⟩
  | x :: rest => ⟨some (x, ⟨c.offset + 1, rest⟩), 0⟩

/-- One character that passes a test made before it is taken. -/
def satisfy (test : Char → Bool) : Rule Char := fun c =>
  match c.rest with
  | [] => ⟨none, c.offset⟩
  | x :: rest => if test x then ⟨some (x, ⟨c.offset + 1, rest⟩), 0⟩ else ⟨none, c.offset⟩

/-- One character of a class that is looked up after the character is taken: on a character
outside the class the failure lies behind it. -/
def ofClass (test : Char → Bool) : Rule Char := fun c =>
  match c.rest with
  | [] => ⟨none, c.offset⟩
  | x :: rest => if test x then ⟨some (x, ⟨c.offset + 1, rest⟩), 0⟩ else ⟨none, c.offset + 1⟩

/-- The given character. -/
def char (x : Char) : Rule Char := satisfy (· = x)

/-- One of the given characters. -/
def oneOf (xs : List Char) : Rule Char := satisfy xs.contains

/-- The given characters one after the other. -/
def literal : List Char → Rule Unit
  | [] => found ()
  | x :: rest => andThen (char x) fun _ => literal rest

/-- The end of the text. -/
def atEnd : Rule Unit := fun c =>
  match c.rest with
  | [] => ⟨some ((), c), 0⟩
  | _ :: _ => ⟨none, c.offset⟩

/-- Succeeds without consuming anything where the rule finds nothing. Failures inside a rule that
succeeded are forgotten; those of one that failed count. -/
def not (r : Rule α) : Rule Unit := fun c =>
  match r c with
  | ⟨some _, _⟩ => ⟨none, c.offset⟩
  | ⟨none, farthest⟩ => ⟨some ((), c), farthest⟩

/-- Succeeds without consuming anything where the rule finds something. -/
def ahead (r : Rule α) : Rule Unit := not (not r)

/-- At most `limit` repetitions of a rule, as many as it finds. -/
def upTo (r : Rule α) : Nat → Cursor → Reply (List α)
  | 0, c => ⟨some ([], c), 0⟩
  | limit + 1, c =>
    match r c with
    | ⟨none, farthest⟩ => ⟨some ([], c), farthest⟩
    | ⟨some (a, after), farthest⟩ =>
      let reply := upTo r limit after
      ⟨reply.found?.map fun (others, left) => (a :: others, left), max farthest reply.farthest⟩

/-- As many repetitions of a rule as there are. A rule that consumes something at every
repetition has no more of them than there are characters left. -/
def many (r : Rule α) : Rule (List α) := fun c => upTo r (c.rest.length + 1) c

/-- One repetition or more. -/
def many1 (r : Rule α) : Rule (List α) := do
  let first ← r
  let others ← many r
  return first :: others

/-- What the rule finds, if it finds something. -/
def optional (r : Rule α) : Rule (Option α) := (some <$> r) <|> found none

end Rule
end ImportResolution.Relaxed
