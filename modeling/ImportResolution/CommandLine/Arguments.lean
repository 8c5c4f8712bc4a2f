import ImportResolution.Text.Quoted
import ImportResolution.Text.Digit

/-!
Command-line arguments: switches, which start with a dash and may take a value, and operands, which
stand at fixed places between them. Every argument is classified first, and then operands and
switches are taken in turns from the left. A long switch may be shortened as long as it stays
unambiguous, short ones may be written together, and two dashes end the switches.

In two corners the releases of the argument parser differ, and the older ones are meant, such as
3.11.2: two dashes behind an equals sign are dropped, where later releases take them as the value,
and joined switches of which one is unknown are refused as a whole, where later releases let those
before it take effect.
-/
namespace ImportResolution.CommandLine

/-- What a switch does: it takes a value, it is given or not, or it ends the run. -/
inductive SwitchKind where
  | value
  | flag
  | final
  deriving DecidableEq, Repr

/-- A switch with its names. -/
structure Switch (κ : Type) where
  key : κ
  names : List Text
  kind : SwitchKind

/-- What an operand takes: one argument, at most one, or one and everything after it. -/
inductive OperandKind where
  | one
  | optional
  | remainder
  deriving DecidableEq, Repr

/-- The switches of a command, and its operands with their names. -/
structure Signature (κ : Type) where
  switches : List (Switch κ)
  operands : List (Text × OperandKind)

/-- Why a run ends before its arguments are all taken: at a switch, or with a usage error. -/
inductive Halt (κ : Type) where
  | final (key : κ)
  | misuse (message : Text)
  deriving Repr

/-- An argument that was read as a switch, with what is written after the name in the same argument,
either behind an equals sign or directly. -/
structure Reading (κ : Type) where
  switch : Switch κ
  name : Text
  attached? : Option Text

/-- An argument with its role: an operand, the end of the switches, a switch, or something that
looks like a switch and is none. -/
inductive Token (κ : Type) where
  | operand (text : Text)
  | dashes
  | switch (text : Text) (reading : Reading κ)
  | unknown (text : Text)

/-- A switch that was given, with its value if it takes one. Two dashes are no value: they are
dropped from what a switch is given, as they are from the arguments of an operand. -/
structure Setting (κ : Type) where
  key : κ
  value? : Option Text

/-- What the arguments of a command say: the switches that were given, the arguments of every
operand, in order, and the arguments that belong to nothing. -/
structure Parsed (κ : Type) where
  settings : List (Setting κ)
  operands : List (List Text)
  extras : List Text

namespace Token

variable {κ : Type}

/-- The argument of a token. -/
def text : Token κ → Text
  | operand text => text
  | dashes => ['-', '-']
  | switch text _ => text
  | unknown text => text

/-- Whether a token is a switch or looks like one. -/
def isSwitch : Token κ → Bool
  | switch _ _ | unknown _ => true
  | _ => false

end Token

namespace Signature

variable {κ : Type}

/-- All names with their switches, in the order in which they were declared. -/
def names (s : Signature κ) : List (Text × Switch κ) :=
  s.switches.flatMap fun switch => switch.names.map fun name => (name, switch)

/-- The switch of a name. -/
def named? (s : Signature κ) (name : Text) : Option (Switch κ) := s.names.lookup name

/-- A text before and after its first equals sign. -/
def atEquals (text : Text) : Text × Option Text :=
  match text.dropWhile (· ≠ '=') with
  | [] => (text, none)
  | _ :: value => (text.takeWhile (· ≠ '='), some value)

/-- The switches that a shortened or joined name may mean. -/
def interpretations (s : Signature κ) (text : Text) : List (Reading κ) :=
  match text with
  | '-' :: '-' :: _ =>
    let (start, value?) := atEquals text
    s.names.filterMap fun (name, switch) =>
      if start.isPrefixOf name then some ⟨switch, name, value?⟩ else none
  | first :: second :: joined =>
    s.names.filterMap fun (name, switch) =>
      if name = [first, second] then some ⟨switch, name, some joined⟩
      else if text.isPrefixOf name then some ⟨switch, name, none⟩
      else none
  | _ => []

/-- Whether a text is a negative number: digits, or a point with digits after it. A line feed at
the end does not count. -/
def isNegativeNumber : Text → Bool
  | '-' :: rest =>
    let body := if rest.getLast? = some '\n' then rest.dropLast else rest
    let whole := body.takeWhile Text.isDecimalDigit
    match body.dropWhile Text.isDecimalDigit with
    | [] => !whole.isEmpty
    | '.' :: places => !places.isEmpty && places.all Text.isDecimalDigit
    | _ => false
  | _ => false

/-- The message for a name that may mean several switches. -/
def ambiguous (text : Text) (readings : List (Reading κ)) : Text :=
  "ambiguous option: ".toList ++ text ++ " could match ".toList
    ++ Text.joinWith ", " (readings.map (·.name))

/-- The role of an argument before the end of the switches. -/
def classify (s : Signature κ) (text : Text) : Except (Halt κ) (Token κ) :=
  match text with
  | '-' :: _ :: _ =>
    match s.named? text with
    | some switch => .ok (.switch text ⟨switch, text, none⟩)
    | none =>
      let (start, value?) := atEquals text
      match value?, s.named? start with
      | some value, some switch => .ok (.switch text ⟨switch, start, some value⟩)
      | _, _ =>
        match s.interpretations text with
        | [reading] => .ok (.switch text reading)
        | [] =>
          if isNegativeNumber text || text.contains ' ' then .ok (.operand text)
          else .ok (.unknown text)
        | readings => .error (.misuse (ambiguous text readings))
  | _ => .ok (.operand text)

/-- The roles of all arguments. -/
def tokens (s : Signature κ) : List Text → Except (Halt κ) (List (Token κ))
  | [] => .ok []
  | text :: rest =>
    if text = ['-', '-'] then .ok (.dashes :: rest.map .operand)
    else
      match s.classify text with
      | .error halt => .error halt
      | .ok token => (s.tokens rest).map (token :: ·)

/-- The message for a switch. -/
def complaint (switch : Switch κ) (problem : Text) : Halt κ :=
  .misuse ("argument ".toList ++ Text.joinWith "/" switch.names ++ ": ".toList ++ problem)

/-- The message for a value given to a switch that takes none. -/
def ignoredValue (switch : Switch κ) (value : Text) : Halt κ :=
  complaint switch ("ignored explicit argument ".toList ++ value.quoted)

/-- Takes a switch into effect that has no value. -/
def setting (switch : Switch κ) : Except (Halt κ) (Setting κ) :=
  match switch.kind with
  | .final => .error (.final switch.key)
  | _ => .ok ⟨switch.key, none⟩

/-- Takes several switches into effect that have no value, first to last. -/
def settings : List (Switch κ) → Except (Halt κ) (List (Setting κ))
  | [] => .ok []
  | switch :: rest =>
    match setting switch with
    | .error halt => .error halt
    | .ok first => (settings rest).map (first :: ·)

/-- Takes a switch into effect with its value. Two dashes are dropped even where they are written
behind an equals sign. -/
def valueSetting (switch : Switch κ) (value : Text) : Setting κ :=
  ⟨switch.key, if value = ['-', '-'] then none else some value⟩

/-- Short switches that are written together, from a switch that takes no value and the text after
its name on. Every character names a further switch, and the first switch that takes a value has
the rest of the text for it. Gives the switches before the last one, the last one and what it is
given. A character that names no switch makes the text a value for the switch before it, which
takes none; that is found out before any of the switches takes effect. -/
def joined (s : Signature κ) (switch : Switch κ) :
    Text → Except (Halt κ) (List (Switch κ) × Switch κ × Option Text)
  | [] => .error (ignoredValue switch [])
  | c :: rest =>
    match s.named? ['-', c] with
    | none => .error (ignoredValue switch (c :: rest))
    | some next =>
      if rest.isEmpty then .ok ([switch], next, none)
      else if next.kind = .value then .ok ([switch], next, some rest)
      else (s.joined next rest).map fun (before, last, value?) => (switch :: before, last, value?)

/-- The switches that one argument gives: those before the last one, the last one and what the
argument gives it. -/
def given (s : Signature κ) (reading : Reading κ) :
    Except (Halt κ) (List (Switch κ) × Switch κ × Option Text) :=
  match reading.attached? with
  | none => .ok ([], reading.switch, none)
  | some value =>
    if reading.switch.kind = .value then .ok ([], reading.switch, some value)
    else if "--".toList.isPrefixOf reading.name then .error (ignoredValue reading.switch value)
    else s.joined reading.switch value

/-- Takes the switches of the argument at the head of the tokens, and the next argument if the last
of them still needs a value. Gives the settings and the tokens left. -/
def takeSwitch (s : Signature κ) (reading : Reading κ) (rest : List (Token κ)) :
    Except (Halt κ) (List (Setting κ) × List (Token κ)) :=
  match s.given reading with
  | .error halt => .error halt
  | .ok (before, last, some value) =>
    (settings before).map fun before => (before ++ [valueSetting last value], rest)
  | .ok (before, last, none) =>
    if last.kind = .value then
      match rest with
      | .operand value :: rest =>
        (settings before).map fun before => (before ++ [valueSetting last value], rest)
      | _ => .error (complaint last "expected one argument".toList)
    else (settings (before ++ [last])).map (·, rest)

/-- The tokens at the head that one operand takes, and the tokens after them, if it can take any. -/
def takeOperand (kind : OperandKind) (tokens : List (Token κ)) :
    Option (List (Token κ) × List (Token κ)) :=
  let isDashes : Token κ → Bool := fun
    | .dashes => true
    | _ => false
  let before := tokens.takeWhile isDashes
  match kind, tokens.dropWhile isDashes with
  | .remainder, .operand text :: rest => some (before ++ .operand text :: rest, [])
  | .remainder, _ => none
  | _, .operand text :: rest =>
    some (before ++ .operand text :: rest.takeWhile isDashes, rest.dropWhile isDashes)
  | .optional, rest => some (before, rest)
  | .one, _ => none

/-- The arguments that an operand is given: for one that takes the remainder all of them, for any
other those without the first pair of dashes. -/
def operandTexts (kind : OperandKind) (taken : List (Token κ)) : List Text :=
  let texts := taken.map Token.text
  if kind = .remainder then texts else texts.erase ['-', '-']

/-- Takes as many operands as possible from the head of the tokens. Gives the arguments of each,
the operands left and the tokens left. -/
def takeOperands : List (Text × OperandKind) → List (Token κ) →
    List (List Text) × List (Text × OperandKind) × List (Token κ)
  | [], tokens => ([], [], tokens)
  | (name, kind) :: operands, tokens =>
    match takeOperand kind tokens with
    | none => ([], (name, kind) :: operands, tokens)
    | some (taken, rest) =>
      let (given, left, rest) := takeOperands operands rest
      (operandTexts kind taken :: given, left, rest)

/-- The message for operands that were not given. -/
def requireOperands (left : List (Text × OperandKind)) : Except (Halt κ) Unit :=
  match left.filter fun operand => operand.2 = .one with
  | [] => .ok ()
  | missing =>
    .error (.misuse ("the following arguments are required: ".toList
      ++ Text.joinWith ", " (missing.map (·.1))))

/-- Takes operands and switches in turns. The first argument bounds the number of turns; every turn
takes a token. -/
def takeAll (s : Signature κ) :
    Nat → List (Text × OperandKind) → List (Token κ) → Except (Halt κ) (Parsed κ)
  | 0, operands, _ => (requireOperands operands).map fun _ => ⟨[], [], []⟩
  | turns + 1, operands, tokens =>
    if tokens.any Token.isSwitch then
      match tokens with
      | .switch _ reading :: rest =>
        match s.takeSwitch reading rest with
        | .error halt => .error halt
        | .ok (settings, rest) =>
          (takeAll s turns operands rest).map fun parsed =>
            { parsed with settings := settings ++ parsed.settings }
      | .unknown text :: rest =>
        (takeAll s turns operands rest).map fun parsed =>
          { parsed with extras := text :: parsed.extras }
      | tokens =>
        let (given, left, rest) := takeOperands operands tokens
        if rest.length < tokens.length then
          (takeAll s turns left rest).map fun parsed =>
            { parsed with operands := given ++ parsed.operands }
        else
          let extras := (rest.takeWhile (!·.isSwitch)).map Token.text
          (takeAll s turns left (rest.dropWhile (!·.isSwitch))).map fun parsed =>
            { parsed with operands := given ++ parsed.operands, extras := extras ++ parsed.extras }
    else
      let (given, left, rest) := takeOperands operands tokens
      (requireOperands left).map fun _ => ⟨[], given, rest.map Token.text⟩

/-- Reads the arguments of a command. -/
def parse (s : Signature κ) (arguments : List Text) : Except (Halt κ) (Parsed κ) :=
  match s.tokens arguments with
  | .error halt => .error halt
  | .ok tokens => s.takeAll (tokens.length + 1) s.operands tokens

end Signature
end ImportResolution.CommandLine
