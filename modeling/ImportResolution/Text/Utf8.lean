import ImportResolution.Text

/-!
UTF-8, read strictly: the shortest form only, no surrogates, nothing above the last code point. A
fault names the octets of the longest sequence that could still have been the start of a
character, which is what a reader needs to find it.
-/
namespace ImportResolution.Utf8

/-- Why octets are not UTF-8. -/
inductive Cause where
  | startByte
  | continuationByte
  | endOfData
  deriving DecidableEq, Repr

/-- Octets that are not UTF-8: `count` octets from offset `start` on, of which `first` is the
first. -/
structure Fault where
  cause : Cause
  first : UInt8
  start : Nat
  count : Nat
  deriving DecidableEq, Repr

/-- What the first octet of a longer sequence says: its own bits of the code, the bounds of the
octet after it, and how many more octets follow that one. -/
structure Lead where
  bits : Nat
  low : UInt8
  high : UInt8
  further : Nat

/-- The bounds of the second octet keep out longer forms than needed, surrogates and codes beyond
the last one. -/
def Lead.ofByte? (b : UInt8) : Option Lead :=
  if b < 0xC2 then none
  else if b < 0xE0 then some ⟨b.toNat - 0xC0, 0x80, 0xBF, 0⟩
  else if b < 0xF0 then
    some ⟨b.toNat - 0xE0, if b = 0xE0 then 0xA0 else 0x80, if b = 0xED then 0x9F else 0xBF, 1⟩
  else if b < 0xF5 then
    some ⟨b.toNat - 0xF0, if b = 0xF0 then 0x90 else 0x80, if b = 0xF4 then 0x8F else 0xBF, 2⟩
  else none

/-- One step of reading: the code so far is `bits`, the next octet has the given bounds and
`further` more octets follow it; `taken` octets have been read. Gives the code and the number of
octets, or the cause of the fault and the number of octets read before it. -/
def sequence (bits : Nat) (low high : UInt8) (further taken : Nat) :
    List UInt8 → Except (Cause × Nat) (Nat × Nat)
  | [] => .error (.endOfData, taken)
  | b :: rest =>
    if low ≤ b ∧ b ≤ high then
      let bits := bits * 64 + (b.toNat - 0x80)
      match further with
      | 0 => .ok (bits, taken + 1)
      | further + 1 => sequence bits 0x80 0xBF further (taken + 1) rest
    else .error (.continuationByte, taken)

/-- The character that starts a list of octets, as its code and the number of octets after the
first. -/
def character (b : UInt8) (rest : List UInt8) : Except (Cause × Nat) (Nat × Nat) :=
  if b < 0x80 then .ok (b.toNat, 0)
  else match Lead.ofByte? b with
    | none => .error (.startByte, 1)
    | some lead =>
      match sequence lead.bits lead.low lead.high lead.further 1 rest with
      | .ok (code, taken) => .ok (code, taken - 1)
      | .error fault => .error fault

/-- Reads octets of which `skip` more belong to the character already read, at the given
offset. -/
def decodeFrom (offset skip : Nat) : List UInt8 → Except Fault Text
  | [] => .ok []
  | b :: rest =>
    match skip with
    | skip + 1 => decodeFrom (offset + 1) skip rest
    | 0 =>
      match character b rest with
      | .error (cause, count) => .error ⟨cause, b, offset, count⟩
      | .ok (code, more) =>
        match decodeFrom (offset + 1) more rest with
        | .ok decoded => .ok (Text.charOfCode code :: decoded)
        | .error fault => .error fault

/-- The text that octets encode. -/
def decode (bytes : List UInt8) : Except Fault Text := decodeFrom 0 0 bytes

/-- The number of octets that encode a text. -/
def encodedLength : Text → Nat
  | [] => 0
  | c :: rest => c.utf8Size + encodedLength rest

/-- What the cause of a fault is called. -/
def Cause.message : Cause → Text
  | .startByte => "invalid start byte".toList
  | .continuationByte => "invalid continuation byte".toList
  | .endOfData => "unexpected end of data".toList

/-- A single octet is shown; of several only the offsets are. -/
def Fault.message (fault : Fault) : Text :=
  let place :=
    if fault.count ≤ 1 then
      "byte 0x".toList ++ Text.hex 2 fault.first.toNat ++ " in position ".toList
        ++ Text.ofNat fault.start
    else
      "bytes in position ".toList ++ Text.ofNat fault.start ++ "-".toList
        ++ Text.ofNat (fault.start + fault.count - 1)
  "'utf-8' codec can't decode ".toList ++ place ++ ": ".toList ++ fault.cause.message

end ImportResolution.Utf8
