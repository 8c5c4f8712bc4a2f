import ImportResolution.Relaxed.Grammar

/-!
Reading the relaxed notation: the grammar first, over the whole text, then the values of its
numerals.
-/
namespace ImportResolution.Relaxed

/-- Why a text has no value. -/
inductive Fault where
  | empty
  | unexpected (offset : Nat)
  | numeral (fault : NumeralFault)
  deriving DecidableEq, Repr

/-- The value of a text. -/
def parse (s : Text) : Except Fault Json :=
  if s.isEmpty then .error .empty
  else
    let reply := Rule.document ⟨0, s⟩
    match reply.found? with
    | none => .error (.unexpected reply.farthest)
    | some (read, _) => read.value.mapError .numeral

/-- The text of a numeral's fault. -/
def NumeralFault.message : NumeralFault → Text
  | .noNumber text => "could not convert string to float: '".toList ++ text ++ ['\'']
  | .integerTooLong digits =>
    "Exceeds the limit (4300 digits) for integer string conversion: value has ".toList
      ++ Text.ofNat digits
      ++ " digits; use sys.set_int_max_str_digits() to increase the limit".toList

/-- The text of a fault; one of the notation names the character at its place. -/
def Fault.message (fault : Fault) (s : Text) : Text :=
  match fault with
  | .empty => "Empty strings are not legal JSON5".toList
  | .unexpected offset =>
    let place := Position.ofOffset s offset
    let what := match s.drop offset with
      | [] => "end of input".toList
      | c :: _ => ['"', c, '"']
    "<string>:".toList ++ Text.ofNat place.line ++ " Unexpected ".toList ++ what
      ++ " at column ".toList ++ Text.ofNat place.column
  | .numeral fault => fault.message

end ImportResolution.Relaxed
