import ImportResolution.Json.Value

/-!
Documents as written: values whose numbers are still texts. The notation admits numerals that
denote no number, such as a lone point; a document has a value if none of its numerals is one of
those, and the first one in the order of the document is at fault otherwise.
-/
namespace ImportResolution.Relaxed

/-- A numeral without its sign. The text of a fraction comes after the point, that of an exponent
after the mark and starts with the sign, if it has one. -/
inductive Magnitude where
  | decimal (whole : Text) (fraction? exponent? : Option Text)
  | hexadecimal (digits : Text)
  | infinity
  | nan
  deriving DecidableEq, Repr

/-- A numeral. -/
structure Numeral where
  negative : Bool
  magnitude : Magnitude
  deriving DecidableEq, Repr

/-- A document as written. -/
inductive Document where
  | null
  | bool (value : Bool)
  | numeral (value : Numeral)
  | string (value : Text)
  | array (items : List Document)
  | object (members : List (Text × Document))
  deriving Repr

/-- Why a numeral denotes no number. -/
inductive NumeralFault where
  | noNumber (text : Text)
  | integerTooLong (digits : Nat)
  deriving DecidableEq, Repr

/-- The value of the digits after an optional sign; there have to be digits. -/
def exponentValue? (s : Text) : Option Int :=
  match s with
  | '-' :: digits => if digits.isEmpty then none else some (-(Text.digitsValue digits : Int))
  | '+' :: digits => if digits.isEmpty then none else some (Text.digitsValue digits)
  | digits => if digits.isEmpty then none else some (Text.digitsValue digits)

/-- The text of a decimal in the spelling that error messages use. -/
def decimalText (negative : Bool) (whole : Text) (fraction? exponent? : Option Text) : Text :=
  (if negative then ['-'] else []) ++ whole
    ++ (fraction?.map ('.' :: ·)).getD [] ++ (exponent?.map ('e' :: ·)).getD []

/-- The number that a decimal denotes: an integer if it has neither a fraction nor an exponent,
and otherwise the nearest binary number. -/
def decimalValue (negative : Bool) (whole : Text) (fraction? exponent? : Option Text) :
    Except NumeralFault Json :=
  if fraction?.isNone ∧ exponent?.isNone then
    if digitLimit < whole.length then .error (.integerTooLong whole.length)
    else
      let size : Int := Text.digitsValue whole
      .ok (.int (if negative then -size else size))
  else
    let fraction := fraction?.getD []
    let digits := whole ++ fraction
    match exponentValue? (exponent?.getD ['0']) with
    | some exponent =>
      if digits.isEmpty then .error (.noNumber (decimalText negative whole fraction? exponent?))
      else .ok (.float (Binary64.ofDecimal negative digits (exponent - fraction.length)))
    | none => .error (.noNumber (decimalText negative whole fraction? exponent?))

/-- The number that a numeral denotes. -/
def Numeral.value (n : Numeral) : Except NumeralFault Json :=
  match n.magnitude with
  | .decimal whole fraction? exponent? => decimalValue n.negative whole fraction? exponent?
  | .hexadecimal digits =>
    let size : Int := digits.foldl (fun size c => size * 16 + ((Text.hexValue? c).getD 0 : Nat)) 0
    .ok (.int (if n.negative then -size else size))
  | .infinity => .ok (.float (.infinity n.negative))
  | .nan => .ok (.float .nan)

mutual

/-- The value of a document. -/
def Document.value : Document → Except NumeralFault Json
  | .null => .ok .null
  | .bool value => .ok (.bool value)
  | .numeral value => value.value
  | .string value => .ok (.str value)
  | .array items => (itemValues items).map .arr
  | .object members => (memberValues members).map Json.object

/-- The values of array items, first to last. -/
def itemValues : List Document → Except NumeralFault (List Json)
  | [] => .ok []
  | item :: rest =>
    match item.value with
    | .error fault => .error fault
    | .ok value => (itemValues rest).map (value :: ·)

/-- The values of object members, first to last. -/
def memberValues : List (Text × Document) → Except NumeralFault (List (Text × Json))
  | [] => .ok []
  | (name, item) :: rest =>
    match item.value with
    | .error fault => .error fault
    | .ok value => (memberValues rest).map ((name, value) :: ·)

end

end ImportResolution.Relaxed
