import ImportResolution.Json.Reader
import Mathlib.Data.List.TakeWhile

/-! Numerals of the strict notation: a sign, whole digits, and perhaps a fraction and an exponent.
The reader takes a text to be a number if and only if a numeral spells it, and it stops where the
numeral ends. -/
namespace ImportResolution

/-- What holds of everything in a list can be checked one by one. -/
theorem forall_listed {α : Type} {p : α → Prop} [DecidablePred p] {listed : List α}
    (checked : listed.all (fun a => decide (p a)) = true) : ∀ a ∈ listed, p a := by
  simpa using checked

namespace Json

variable {rest left : Text}

/-! ### Digits -/

/-- A text of decimal digits. -/
def Digits (s : Text) : Prop := ∀ c ∈ s, c.isDigit = true

/-- A text does not go on with a digit. -/
def NoDigit (s : Text) : Prop := ∀ c ∈ s.head?, c.isDigit = false

theorem takeWhile_digits {digits : Text} (all : Digits digits) (stop : NoDigit rest) :
    (digits ++ rest).takeWhile Char.isDigit = digits := by
  rw [List.takeWhile_append_of_pos all]
  cases rest with
  | nil => simp
  | cons c tail => simp [stop c rfl]

theorem dropWhile_digits {digits : Text} (all : Digits digits) (stop : NoDigit rest) :
    (digits ++ rest).dropWhile Char.isDigit = rest := by
  rw [List.dropWhile_append_of_pos all]
  cases rest with
  | nil => rfl
  | cons c tail => simp [stop c rfl]

theorem digits_takeWhile (s : Text) : Digits (s.takeWhile Char.isDigit) :=
  fun _ member => List.mem_takeWhile_imp member

/-! ### Numerals -/

/-- An exponent as written: its mark, its sign if it has one, and its digits. -/
structure Exponent where
  mark : Char
  sign? : Option Char
  digits : Text

namespace Exponent

/-- What stands behind the mark. -/
def size (e : Exponent) : Text := e.sign?.toList ++ e.digits

/-- The text of an exponent. -/
def text (e : Exponent) : Text := e.mark :: e.size

/-- The number that an exponent denotes. -/
def value (e : Exponent) : Int :=
  if e.sign? = some '-' then -(Text.digitsValue e.digits : Int) else Text.digitsValue e.digits

/-- The marks and signs that there are, and at least one digit. -/
structure WellFormed (e : Exponent) : Prop where
  mark : e.mark = 'e' ∨ e.mark = 'E'
  sign : e.sign? = none ∨ e.sign? = some '-' ∨ e.sign? = some '+'
  nonempty : e.digits ≠ []
  digits : Digits e.digits

end Exponent

/-- A number as written: its sign, its whole digits, the digits after its point and its
exponent. -/
structure Numeral where
  negative : Bool
  whole : Text
  fraction? : Option Text
  exponent? : Option Exponent

namespace Numeral

/-- The point and the digits after it. -/
def fractionText : Option Text → Text
  | none => []
  | some digits => '.' :: digits

/-- The exponent with its mark. -/
def exponentText (exponent? : Option Exponent) : Text := (exponent?.map Exponent.text).getD []

/-- The text of a numeral behind its sign. -/
def unsigned (n : Numeral) : Text :=
  n.whole ++ (fractionText n.fraction? ++ exponentText n.exponent?)

/-- The text of a numeral. -/
def text (n : Numeral) : Text := if n.negative then '-' :: n.unsigned else n.unsigned

/-- The number that a numeral denotes: binary if it has a fraction or an exponent, and otherwise an
integer, which may not have too many digits. -/
def value? (n : Numeral) : Option Json :=
  if n.fraction?.isNone ∧ n.exponent?.isNone then
    if digitLimit < n.whole.length then none
    else some (.int (if n.negative then -(Text.digitsValue n.whole : Int)
      else Text.digitsValue n.whole))
  else some (.float (Binary64.ofDecimal n.negative (n.whole ++ n.fraction?.getD [])
    ((n.exponent?.map Exponent.value).getD 0 - (n.fraction?.getD []).length)))

/-- Whole digits: a single zero, or digits that do not start with one. -/
inductive Whole : Text → Prop where
  | zero : Whole ['0']
  | digits {first : Char} {others : Text} (digit : first.isDigit = true) (nonzero : first ≠ '0')
      (all : Digits others) : Whole (first :: others)

/-- The rules of the notation: a zero stands before other whole digits nowhere, and neither a point
nor a mark without a digit behind it. -/
structure WellFormed (n : Numeral) : Prop where
  whole : Whole n.whole
  fraction : ∀ digits ∈ n.fraction?, digits ≠ [] ∧ Digits digits
  exponent : ∀ e ∈ n.exponent?, e.WellFormed

end Numeral

/-- A text behind a value: nothing, or a blank or a mark that ends the value. -/
inductive Delimited : Text → Prop where
  | nil : Delimited []
  | cons {c : Char} (ends : c ∈ [' ', '\t', '\n', '\r', ',', ']', '\x7d']) (tail : Text) :
      Delimited (c :: tail)

theorem Delimited.noDigit (ended : Delimited rest) : NoDigit rest := by
  cases ended with
  | nil => simp [NoDigit]
  | cons ends tail =>
    have none : ∀ c ∈ [' ', '\t', '\n', '\r', ',', ']', '\x7d'], c.isDigit = false :=
      forall_listed (by decide)
    simpa [NoDigit] using none _ ends

/-- A mark that ends a value is none of a number. -/
theorem Delimited.head_ne (ended : Delimited rest) {x : Char} (tail : Text)
    (other : x ∉ [' ', '\t', '\n', '\r', ',', ']', '\x7d']) : rest ≠ x :: tail := by
  rintro rfl
  cases ended with
  | cons ends => exact other ends

/-! ### Reading a numeral -/

theorem noDigit_exponentText {exponent? : Option Exponent}
    (formed : ∀ e ∈ exponent?, e.WellFormed) (ended : Delimited rest) :
    NoDigit (Numeral.exponentText exponent? ++ rest) := by
  cases exponent? with
  | none => exact ended.noDigit
  | some e =>
    rcases (formed e rfl).mark with mark | mark <;>
      simp [NoDigit, Numeral.exponentText, Exponent.text, mark]

theorem noDigit_fractionText (fraction? : Option Text) {exponent? : Option Exponent}
    (formed : ∀ e ∈ exponent?, e.WellFormed) (ended : Delimited rest) :
    NoDigit (Numeral.fractionText fraction? ++ (Numeral.exponentText exponent? ++ rest)) := by
  cases fraction? with
  | none => exact noDigit_exponentText formed ended
  | some digits => simp [NoDigit, Numeral.fractionText]

theorem wholeDigits_of_whole {whole : Text} (formed : Numeral.Whole whole) (stop : NoDigit rest) :
    wholeDigits (whole ++ rest) = (whole, rest) := by
  cases formed with
  | zero => rfl
  | @digits first others digit nonzero all =>
    have every : Digits (first :: others) := List.forall_mem_cons.mpr ⟨digit, all⟩
    unfold wholeDigits
    split
    · rename_i tail same
      cases same
      exact absurd rfl nonzero
    · rw [takeWhile_digits every stop, dropWhile_digits every stop]

theorem fraction_of_text {fraction? : Option Text} {exponent? : Option Exponent}
    (formed : ∀ digits ∈ fraction?, digits ≠ [] ∧ Digits digits)
    (others : ∀ e ∈ exponent?, e.WellFormed) (ended : Delimited rest) :
    fraction (Numeral.fractionText fraction? ++ (Numeral.exponentText exponent? ++ rest))
      = (fraction?, Numeral.exponentText exponent? ++ rest) := by
  have stop := noDigit_exponentText others ended
  cases fraction? with
  | some digits =>
    obtain ⟨nonempty, all⟩ := formed digits rfl
    simp [fraction, Numeral.fractionText, takeWhile_digits all stop, dropWhile_digits all stop,
      nonempty]
  | none =>
    simp only [Numeral.fractionText, List.nil_append]
    unfold fraction
    split
    · rename_i tail same
      cases exponent? with
      | none => exact absurd same (ended.head_ne tail (by decide))
      | some e =>
        rcases (others e rfl).mark with mark | mark <;>
          simp [Numeral.exponentText, Exponent.text, mark] at same
    · rfl

theorem exponent_of_text {exponent? : Option Exponent} (formed : ∀ e ∈ exponent?, e.WellFormed)
    (ended : Delimited rest) :
    exponent (Numeral.exponentText exponent? ++ rest) = (exponent?.map Exponent.value, rest) := by
  cases exponent? with
  | none =>
    cases ended with
    | nil => rfl
    | @cons c ends tail =>
      have none : ∀ c ∈ [' ', '\t', '\n', '\r', ',', ']', '\x7d'], ¬ (c = 'e' ∨ c = 'E') :=
        forall_listed (by decide)
      simp [exponent, Numeral.exponentText, none c ends]
  | some e =>
    obtain ⟨mark, sign?, digits⟩ := e
    obtain ⟨mark, sign, nonempty, all⟩ := formed _ rfl
    simp only at mark sign nonempty all
    have taken := takeWhile_digits all ended.noDigit
    have dropped := dropWhile_digits all ended.noDigit
    rcases sign with rfl | rfl | rfl
    · -- without a sign the digits follow the mark at once
      obtain ⟨first, others, rfl⟩ := List.exists_cons_of_ne_nil nonempty
      have digit : first.isDigit = true := all first (List.mem_cons_self ..)
      have minus : first ≠ '-' := by rintro rfl; simp at digit
      have plus : first ≠ '+' := by rintro rfl; simp at digit
      simp only [List.cons_append] at taken dropped
      simp [exponent, Numeral.exponentText, Exponent.text, Exponent.size, mark, minus, plus, taken,
        dropped, Exponent.value]
    · simp [exponent, Numeral.exponentText, Exponent.text, Exponent.size, mark, taken, dropped,
        nonempty, Exponent.value]
    · simp [exponent, Numeral.exponentText, Exponent.text, Exponent.size, mark, taken, dropped,
        nonempty, Exponent.value]

/-- The number behind the sign, in the steps of the reader. -/
theorem number_of_parts {negative : Bool} {s unsigned whole afterWhole afterFraction : Text}
    {fraction? : Option Text} {exponent? : Option Int}
    (signed : (match s with
      | '-' :: rest => (true, rest)
      | rest => (false, rest)) = (negative, unsigned))
    (first : wholeDigits unsigned = (whole, afterWhole))
    (second : fraction afterWhole = (fraction?, afterFraction))
    (third : exponent afterFraction = (exponent?, left)) :
    number s =
      if whole = [] then .error (.value, s.length)
      else if fraction?.isNone ∧ exponent?.isNone then
        if digitLimit < whole.length then .error (.integerTooLong whole.length, s.length)
        else .ok (.int (if negative then -(Text.digitsValue whole : Int)
          else Text.digitsValue whole), left)
      else .ok (.float (Binary64.ofDecimal negative (whole ++ fraction?.getD [])
        (exponent?.getD 0 - (fraction?.getD []).length)), left) := by
  unfold number
  split
  rename_i cut
  obtain ⟨rfl, rfl⟩ := Prod.mk.inj (signed.symm.trans cut)
  simp only [first, List.isEmpty_iff, second, third]

theorem Numeral.Whole.ne_nil {whole : Text} (formed : Whole whole) : whole ≠ [] := by
  cases formed <;> simp

theorem Numeral.Whole.head {whole : Text} (formed : Whole whole) :
    ∃ first others, whole = first :: others ∧ first.isDigit = true := by
  cases formed with
  | zero => exact ⟨_, _, rfl, rfl⟩
  | digits digit => exact ⟨_, _, rfl, digit⟩

/-- A numeral is read as the number that it denotes. -/
theorem number_text {n : Numeral} {v : Json} (formed : n.WellFormed) (denotes : n.value? = some v)
    (ended : Delimited rest) : number (n.text ++ rest) = .ok (v, rest) := by
  have first := wholeDigits_of_whole formed.whole
    (noDigit_fractionText n.fraction? formed.exponent ended)
  have second := fraction_of_text formed.fraction formed.exponent ended
  have third := exponent_of_text formed.exponent ended
  have signed : (match n.text ++ rest with
      | '-' :: rest => (true, rest)
      | rest => (false, rest)) = (n.negative, n.unsigned ++ rest) := by
    unfold Numeral.text
    cases n.negative with
    | true => rfl
    | false =>
      obtain ⟨c, others, head, digit⟩ := formed.whole.head
      have minus : c ≠ '-' := by rintro rfl; simp at digit
      simp [Numeral.unsigned, head, minus]
  rw [number_of_parts signed (by simpa [Numeral.unsigned] using first) second third,
    if_neg formed.whole.ne_nil]
  unfold Numeral.value? at denotes
  by_cases integral : n.fraction?.isNone ∧ n.exponent?.isNone
  · by_cases long : digitLimit < n.whole.length
    · simp [integral, long] at denotes
    · simp only [integral, and_self, if_true, long, if_false, Option.some.injEq] at denotes
      simp [integral, long, denotes]
  · simp only [integral, if_false, Option.some.injEq] at denotes
    simp only [Option.isNone_map, integral, if_false, denotes]

/-! ### Numerals that were read -/

theorem wholeDigits_spelled {s whole : Text} (cut : wholeDigits s = (whole, rest))
    (nonempty : whole ≠ []) : s = whole ++ rest ∧ Numeral.Whole whole := by
  unfold wholeDigits at cut
  split at cut
  · cases cut
    exact ⟨rfl, .zero⟩
  · rename_i nonzero
    cases cut
    refine ⟨List.takeWhile_append_dropWhile.symm, ?_⟩
    cases s with
    | nil => simp at nonempty
    | cons c tail =>
      by_cases digit : c.isDigit = true
      · simp only [List.takeWhile_cons, digit, if_true]
        exact .digits digit (fun same => nonzero tail (by rw [same])) (digits_takeWhile tail)
      · simp [digit] at nonempty

theorem fraction_spelled {s : Text} {fraction? : Option Text}
    (cut : fraction s = (fraction?, rest)) :
    s = Numeral.fractionText fraction? ++ rest ∧
      ∀ digits ∈ fraction?, digits ≠ [] ∧ Digits digits := by
  unfold fraction at cut
  split at cut
  · rename_i tail
    by_cases empty : (tail.takeWhile Char.isDigit).isEmpty
    · simp only [empty, if_true, Prod.mk.injEq] at cut
      obtain ⟨rfl, rfl⟩ := cut
      simp [Numeral.fractionText]
    · simp only [empty, Bool.false_eq_true, if_false, Prod.mk.injEq] at cut
      obtain ⟨rfl, rfl⟩ := cut
      refine ⟨by simp [Numeral.fractionText], ?_⟩
      rintro digits same
      cases same
      exact ⟨by simpa using empty, digits_takeWhile tail⟩
  · cases cut
    simp [Numeral.fractionText]

/-- What stands between the mark and the digits of an exponent is its sign. -/
theorem exponent_marked {mark : Char} (marked : mark = 'e' ∨ mark = 'E') (tail : Text) :
    ∃ sign? unsigned, tail = Option.toList sign? ++ unsigned ∧
      (sign? = none ∨ sign? = some '-' ∨ sign? = some '+') ∧
      exponent (mark :: tail) =
        if unsigned.takeWhile Char.isDigit = [] then (none, mark :: tail)
        else (some (Exponent.value ⟨mark, sign?, unsigned.takeWhile Char.isDigit⟩),
          unsigned.dropWhile Char.isDigit) := by
  by_cases minus : ∃ more, tail = '-' :: more
  · obtain ⟨more, rfl⟩ := minus
    exact ⟨some '-', more, rfl, .inr (.inl rfl), by simp [exponent, marked, Exponent.value]⟩
  by_cases plus : ∃ more, tail = '+' :: more
  · obtain ⟨more, rfl⟩ := plus
    exact ⟨some '+', more, rfl, .inr (.inr rfl), by simp [exponent, marked, Exponent.value]⟩
  refine ⟨none, tail, rfl, .inl rfl, ?_⟩
  simp only [exponent, marked, if_true]
  split
  · exact absurd ⟨_, rfl⟩ minus
  · exact absurd ⟨_, rfl⟩ plus
  · simp [Exponent.value]

theorem exponent_spelled {s : Text} {exponent? : Option Int}
    (cut : exponent s = (exponent?, rest)) :
    ∃ e?, s = Numeral.exponentText e? ++ rest ∧ e?.map Exponent.value = exponent? ∧
      ∀ e ∈ e?, Exponent.WellFormed e := by
  have absent : (none, s) = (exponent?, rest) →
      ∃ e?, s = Numeral.exponentText e? ++ rest ∧ e?.map Exponent.value = exponent? ∧
        ∀ e ∈ e?, Exponent.WellFormed e := by
    rintro ⟨⟩
    exact ⟨none, rfl, rfl, by simp⟩
  cases s with
  | nil => exact absent cut
  | cons mark tail =>
    by_cases marked : mark = 'e' ∨ mark = 'E'
    · obtain ⟨sign?, unsigned, behind, sign, read⟩ := exponent_marked marked tail
      rw [read] at cut
      split at cut
      · exact absent cut
      · rename_i nonempty
        cases cut
        refine ⟨some ⟨mark, sign?, unsigned.takeWhile Char.isDigit⟩, ?_, rfl, ?_⟩
        · simp [Numeral.exponentText, Exponent.text, Exponent.size, behind]
        · rintro e same
          cases same
          exact ⟨marked, sign, nonempty, digits_takeWhile unsigned⟩
    · simp only [exponent, marked, if_false] at cut
      exact absent cut

/-- A numeral denotes no number exactly if it is an integer with too many digits. -/
theorem Numeral.value?_eq_none {n : Numeral} :
    n.value? = none ↔ n.fraction? = none ∧ n.exponent? = none ∧ digitLimit < n.whole.length := by
  unfold Numeral.value?
  by_cases integral : n.fraction?.isNone ∧ n.exponent?.isNone
  · rw [if_pos integral]
    simp only [Option.isNone_iff_eq_none] at integral
    by_cases long : digitLimit < n.whole.length <;> simp [integral, long]
  · rw [if_neg integral]
    simp only [Option.isNone_iff_eq_none] at integral
    simp [← and_assoc, integral]

/-- A text begins with no number, or with a numeral. That is read as what it denotes, and refused
for its digits if it denotes nothing. -/
theorem number_cases (s : Text) :
    number s = .error (.value, s.length) ∨
      ∃ (n : Numeral) (after : Text), n.WellFormed ∧ s = n.text ++ after ∧
        number s = match n.value? with
          | some v => .ok (v, after)
          | none => .error (.integerTooLong n.whole.length, s.length) := by
  obtain ⟨negative, unsigned, signed, spelledSign⟩ : ∃ (negative : Bool) (unsigned : Text),
      (match s with
        | '-' :: rest => (true, rest)
        | rest => (false, rest)) = (negative, unsigned) ∧
      s = if negative then '-' :: unsigned else unsigned := by
    split <;> exact ⟨_, _, rfl, rfl⟩
  obtain ⟨whole, afterWhole, first⟩ : ∃ whole rest, wholeDigits unsigned = (whole, rest) :=
    ⟨_, _, rfl⟩
  obtain ⟨fraction?, afterFraction, second⟩ : ∃ digits rest, fraction afterWhole = (digits, rest) :=
    ⟨_, _, rfl⟩
  obtain ⟨exponent?, after, third⟩ : ∃ value rest, exponent afterFraction = (value, rest) :=
    ⟨_, _, rfl⟩
  rw [number_of_parts signed first second third]
  by_cases nonempty : whole = []
  · exact .inl (if_pos nonempty)
  obtain ⟨spelledWhole, wholeFormed⟩ := wholeDigits_spelled first nonempty
  obtain ⟨spelledFraction, fractionFormed⟩ := fraction_spelled second
  obtain ⟨e?, spelledExponent, exponentValue, exponentFormed⟩ := exponent_spelled third
  have behind : unsigned = Numeral.unsigned ⟨negative, whole, fraction?, e?⟩ ++ after := by
    rw [spelledWhole, spelledFraction, spelledExponent]
    simp [Numeral.unsigned]
  have spelled : s = Numeral.text ⟨negative, whole, fraction?, e?⟩ ++ after := by
    rw [spelledSign, behind, Numeral.text]
    split <;> rfl
  refine .inr ⟨⟨negative, whole, fraction?, e?⟩, after,
    ⟨wholeFormed, fractionFormed, exponentFormed⟩, spelled, ?_⟩
  subst exponentValue
  rw [if_neg nonempty]
  simp only [Numeral.value?, Option.isNone_map]
  by_cases integral : fraction?.isNone ∧ e?.isNone
  · rw [if_pos integral, if_pos integral]
    by_cases long : digitLimit < whole.length
    · rw [if_pos long, if_pos long]
    · rw [if_neg long, if_neg long]
  · rw [if_neg integral, if_neg integral]

/-- What is read as a number is spelled by a numeral. -/
theorem number_spelled {s : Text} {v : Json} (read : number s = .ok (v, left)) :
    ∃ n : Numeral, n.WellFormed ∧ n.value? = some v ∧ s = n.text ++ left := by
  rcases number_cases s with refused | ⟨n, after, formed, spelled, outcome⟩
  · rw [refused] at read
    cases read
  · rw [outcome] at read
    cases denoted : n.value? with
    | none =>
      rw [denoted] at read
      cases read
    | some value =>
      rw [denoted] at read
      cases read
      exact ⟨n, formed, denoted, spelled⟩

end Json
end ImportResolution
