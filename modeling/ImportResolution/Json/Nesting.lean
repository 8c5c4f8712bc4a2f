import ImportResolution.Json.Reader

/-!
How deep a document goes. The strict reader calls itself for every container, so containers inside
one another take room on the stack, and for one container too many the reading breaks off. The
reader comes to a container only if there is no fault in what stands before it.
-/
namespace ImportResolution.Json

/-- The two kinds of containers. -/
inductive Container where
  | array
  | object
  deriving DecidableEq, Repr

/-- The container that a character opens outside a string. -/
def Container.opened? : Char → Option Container
  | '[' => some .array
  | '{' => some .object
  | _ => none

/-- Where in a document a character stands: outside strings, in a string, or behind a backslash in
a string. -/
inductive Standing where
  | outside
  | string
  | escape
  deriving DecidableEq, Repr

/-- The first container that stands inside more others than there is room for. -/
def tooDeep? : Standing → Nat → Text → Option Container
  | _, _, [] => none
  | .escape, room, _ :: rest => tooDeep? .string room rest
  | .string, room, c :: rest =>
    if c = '\\' then tooDeep? .escape room rest
    else if c = '"' then tooDeep? .outside room rest
    else tooDeep? .string room rest
  | .outside, room, c :: rest =>
    if c = '"' then tooDeep? .string room rest
    else if c = ']' ∨ c = '}' then tooDeep? .outside (room + 1) rest
    else
      match Container.opened? c with
      | none => tooDeep? .outside room rest
      | some container =>
        match room with
        | 0 => some container
        | room + 1 => tooDeep? .outside room rest

/-- The part of a text in front of its first fault, or all of it. -/
def faultless (s : Text) : Text :=
  match parse s with
  | .ok _ => s
  | .error fault => s.take fault.offset

/-- The container at which the reading of a text breaks off, if there is room for only so many
containers inside one another. -/
def overflow? (room : Nat) (s : Text) : Option Container :=
  tooDeep? .outside room (faultless s)

end ImportResolution.Json
