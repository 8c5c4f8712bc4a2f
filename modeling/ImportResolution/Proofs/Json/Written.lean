import ImportResolution.Json.Printer
import ImportResolution.Proofs.Json.Notation

/-! The written forms of numbers and strings. They spell what they are written for, except that of a
binary number it is only shown that its written form spells a binary number. -/
namespace ImportResolution.Json

variable {n : Nat}

/-! ### Integers -/

/-- The digits of a number other than zero start with one other than zero. -/
theorem ofNat_cons (nonzero : n ≠ 0) :
    ∃ first others, Text.ofNat n = first :: others ∧ first.isDigit = true ∧ first ≠ '0' ∧
      Digits others := by
  induction n using Nat.strongRecOn with
  | ind n ih =>
    have last : (n % 10).digitChar.isDigit = true := by
      rw [Nat.isDigit_digitChar]
      exact decide_eq_true (Nat.mod_lt n (by decide))
    by_cases small : n < 10
    · refine ⟨n.digitChar, [], Nat.toDigits_of_lt_base small, ?_, ?_, by simp [Digits]⟩
      · rwa [Nat.mod_eq_of_lt small] at last
      · simpa using nonzero
    · obtain ⟨first, others, cut, digit, other, all⟩ := ih (n / 10) (by omega) (by omega)
      refine ⟨first, others ++ [(n % 10).digitChar], ?_, digit, other, ?_⟩
      · rw [Text.ofNat, Nat.toDigits_of_base_le (by decide) (by omega)]
        rw [Text.ofNat] at cut
        rw [cut, List.cons_append]
      · intro c member
        rcases List.mem_append.mp member with member | member
        · exact all c member
        · rw [List.mem_singleton.mp member]
          exact last

theorem whole_ofNat (n : Nat) : Numeral.Whole (Text.ofNat n) := by
  by_cases zero : n = 0
  · rw [zero]
    exact .zero
  · obtain ⟨first, others, cut, digit, nonzero, all⟩ := ofNat_cons zero
    rw [cut]
    exact .digits digit nonzero all

theorem digits_ofNat (n : Nat) : Digits (Text.ofNat n) :=
  fun _ member => Nat.isDigit_of_mem_toDigits (by decide) (by decide) member

theorem digitsValue_ofNat (n : Nat) : Text.digitsValue (Text.ofNat n) = n := by
  have back := Nat.ofDigitChars_toDigits (b := 10) (n := n) (by decide) (by decide)
  rw [Nat.ofDigitChars_eq_foldl] at back
  simpa [Text.digitsValue, Text.ofNat] using back

/-- An integer that is not too long is spelled by its digits. -/
theorem ofInt_spelled {i : Int} (writable : isWritable (.int i) = true) :
    Spells (.value (.int i)) (Text.ofInt i) := by
  have short : ¬ digitLimit < (Text.ofNat i.natAbs).length := by
    simpa [isWritable] using writable
  cases i with
  | ofNat n =>
    have formed : Numeral.WellFormed ⟨false, Text.ofNat n, none, none⟩ :=
      ⟨whole_ofNat n, by simp, by simp⟩
    have spelled := Spells.number (v := .int n) formed (by
      simp only [Int.ofNat_eq_natCast, Int.natAbs_natCast] at short
      simp [Numeral.value?, short, digitsValue_ofNat])
    simpa [Numeral.text, Numeral.unsigned, Numeral.fractionText, Numeral.exponentText,
      Text.ofInt] using spelled
  | negSucc n =>
    have formed : Numeral.WellFormed ⟨true, Text.ofNat (n + 1), none, none⟩ :=
      ⟨whole_ofNat (n + 1), by simp, by simp⟩
    have spelled := Spells.number (v := .int (Int.negSucc n)) formed (by
      simp only [Int.natAbs_negSucc, Nat.succ_eq_add_one] at short
      simp [Numeral.value?, short, digitsValue_ofNat, Int.negSucc_eq])
    simpa [Numeral.text, Numeral.unsigned, Numeral.fractionText, Numeral.exponentText,
      Text.ofInt] using spelled

/-! ### Strings -/

/-- One more hexadecimal digit. -/
theorem hex_succ {width : Nat} (positive : 0 < width) (n : Nat) :
    Text.hex (width + 1) n = Text.hex width (n / 16) ++ [(n % 16).digitChar] := by
  by_cases small : n < 16
  · have zero : n / 16 = 0 := by omega
    obtain ⟨less, rfl⟩ : ∃ less, width = less + 1 := ⟨width - 1, by omega⟩
    simp [Text.hex, Nat.toDigits_of_lt_base small, zero, Nat.mod_eq_of_lt small,
      List.replicate_succ']
  · simp [Text.hex, Nat.toDigits_of_base_le (b := 16) (by decide) (by omega : 16 ≤ n),
      List.append_assoc]

theorem hexValue?_digitChar {d : Nat} (digit : d < 16) : Text.hexValue? d.digitChar = some d := by
  have all : ∀ d < 16, Text.hexValue? d.digitChar = some d := by decide
  exact all d digit

/-- Four hexadecimal digits are read as the code that they were written for. -/
theorem hex_four {code : Nat} (bounded : code ≤ 0xFFFF) :
    ∃ a b c d, Text.hex 4 code = [a, b, c, d] ∧ hexCode? a b c d = some code := by
  have one : Text.hex 1 (code / 16 / 16 / 16) = [(code / 16 / 16 / 16).digitChar] := by
    have small : code / 16 / 16 / 16 < 16 := by omega
    simp [Text.hex, Nat.toDigits_of_lt_base small]
  refine ⟨(code / 16 / 16 / 16).digitChar, (code / 16 / 16 % 16).digitChar,
    (code / 16 % 16).digitChar, (code % 16).digitChar, ?_, ?_⟩
  · rw [hex_succ (by decide), hex_succ (by decide), hex_succ (by decide), one]
    rfl
  · simp only [hexCode?, hexValue?_digitChar (by omega : code / 16 / 16 / 16 < 16),
      hexValue?_digitChar (Nat.mod_lt _ (by decide)), Option.bind_eq_bind, Option.bind_some,
      pure, Option.some.injEq]
    omega

theorem unicodeEscape_spelled {code : Nat} (bounded : code ≤ 0xFFFF) {codes : List Nat}
    {text : Text} (more : SpellsCodes codes text) :
    SpellsCodes (code :: codes) (unicodeEscape code ++ text) := by
  obtain ⟨a, b, c, d, digits, means⟩ := hex_four bounded
  rw [unicodeEscape, digits]
  exact .unicode means more

/-- The codes that the written form of a character spells: its own, or those of its surrogate
pair. -/
def codesOf (c : Char) : List Nat :=
  if c.toNat ≤ 0xFFFF then [c.toNat]
  else [0xD800 + (c.toNat - 0x10000) / 0x400, 0xDC00 + (c.toNat - 0x10000) % 0x400]

theorem writtenChar_spelled (c : Char) {codes : List Nat} {text : Text}
    (more : SpellsCodes codes text) : SpellsCodes (codesOf c ++ codes) (writtenChar c ++ text) := by
  unfold writtenChar
  split
  · subst c; exact .escape (c := '"') rfl more
  split
  · subst c; exact .escape (c := '\\') rfl more
  split
  · subst c; exact .escape (c := 'n') rfl more
  split
  · subst c; exact .escape (c := 'r') rfl more
  split
  · subst c; exact .escape (c := 't') rfl more
  split
  · subst c; exact .escape (c := 'f') rfl more
  split
  · subst c; exact .escape (c := 'b') rfl more
  split
  · rename_i quote backslash _ _ _ _ _ printable
    have low : codesOf c = [c.toNat] := by
      have bound : c.toNat ≤ 126 := printable.2
      rw [codesOf, if_pos (by omega)]
    rw [low]
    exact .plain quote backslash (by simpa using printable.1) more
  split
  · rename_i low
    rw [codesOf, if_pos low]
    exact unicodeEscape_spelled low more
  · rename_i high
    have valid : c.toNat < 0xD800 ∨ 0xDFFF < c.toNat ∧ c.toNat < 0x110000 := c.valid
    rw [codesOf, if_neg high, List.append_assoc]
    exact unicodeEscape_spelled (by omega) (unicodeEscape_spelled (by omega) more)

theorem charOfCode_toNat (c : Char) : Text.charOfCode c.toNat = c := by
  have valid : c.toNat.isValidChar := c.valid
  simp [Text.charOfCode, valid]

/-- The codes of a character are joined to the character. -/
theorem joinSurrogates_codesOf (c : Char) (codes : List Nat) :
    joinSurrogates (codesOf c ++ codes) = c :: joinSurrogates codes := by
  have valid : c.toNat < 0xD800 ∨ 0xDFFF < c.toNat ∧ c.toNat < 0x110000 := c.valid
  unfold codesOf
  split
  · -- no character has the code of a surrogate, so nothing is joined to it
    cases codes with
    | nil => simp [joinSurrogates, charOfCode_toNat]
    | cons low rest =>
      have alone : ¬ (0xD800 ≤ c.toNat ∧ c.toNat < 0xDC00 ∧ 0xDC00 ≤ low ∧ low < 0xE000) := by
        omega
      simp [joinSurrogates, alone, charOfCode_toNat]
  · rename_i high
    have pair : 0x10000 + (0xD800 + (c.toNat - 0x10000) / 0x400 - 0xD800) * 0x400
        + (0xDC00 + (c.toNat - 0x10000) % 0x400 - 0xDC00) = c.toNat := by
      omega
    simp only [List.cons_append, List.nil_append, joinSurrogates]
    rw [if_pos (by omega), pair, charOfCode_toNat]

/-- A string is spelled by its written form. -/
theorem writtenString_spelled (s : Text) : SpellsString s (writtenString s) := by
  have inner : SpellsCodes (s.flatMap codesOf) (s.flatMap writtenChar) ∧
      joinSurrogates (s.flatMap codesOf) = s := by
    induction s with
    | nil => exact ⟨.nil, rfl⟩
    | cons c s ih =>
      refine ⟨writtenChar_spelled c ih.1, ?_⟩
      rw [List.flatMap_cons, joinSurrogates_codesOf, ih.2]
  have spelled := SpellsString.quoted inner.1
  rw [inner.2] at spelled
  exact spelled

theorem printable_of_hexValue {c : Char} {d : Nat} (digit : Text.hexValue? c = some d) :
    ¬ c < ' ' := by
  intro control
  have low : c.toNat < 32 := control
  unfold Text.hexValue? at digit
  split at digit
  · rename_i range
    have high : 48 ≤ c.toNat := range.1
    omega
  split at digit
  · rename_i range
    have high : 97 ≤ c.toNat := range.1
    omega
  split at digit
  · rename_i range
    have high : 65 ≤ c.toNat := range.1
    omega
  · cases digit

theorem printable_of_hexCode {a b c d : Char} {code : Nat} (means : hexCode? a b c d = some code) :
    ∀ x ∈ [a, b, c, d], ¬ x < ' ' := by
  simp only [hexCode?, Option.bind_eq_bind, Option.bind_eq_some_iff] at means
  obtain ⟨_, first, _, second, _, third, _, fourth, -⟩ := means
  simp only [List.forall_mem_cons, List.not_mem_nil, false_imp_iff, implies_true, and_true]
  exact ⟨printable_of_hexValue first, printable_of_hexValue second, printable_of_hexValue third,
    printable_of_hexValue fourth⟩

theorem printable_of_shortEscape {c meant : Char} (means : shortEscape? c = some meant) :
    ¬ c < ' ' := by
  unfold shortEscape? at means
  split at means
  all_goals first | decide | cases means

/-- No control character stands in the text of a string. -/
theorem SpellsString.printable {s text : Text} (spelled : SpellsString s text) :
    ∀ c ∈ text, ¬ c < ' ' := by
  have inner : ∀ {codes text}, SpellsCodes codes text → ∀ c ∈ text, ¬ c < ' ' := by
    intro codes text spelled
    induction spelled with
    | nil => simp
    | plain quote backslash printable more ih =>
      exact List.forall_mem_cons.mpr ⟨printable, ih⟩
    | escape means more ih =>
      simp only [List.forall_mem_cons]
      exact ⟨by decide, printable_of_shortEscape means, ih⟩
    | unicode means more ih =>
      have digits := printable_of_hexCode means
      simp only [List.forall_mem_cons] at digits ⊢
      exact ⟨by decide, by decide, digits.1, digits.2.1, digits.2.2.1, digits.2.2.2.1, ih⟩
  obtain ⟨spelled⟩ := spelled
  intro c member
  rcases List.mem_cons.mp member with rfl | member
  · decide
  · rcases List.mem_append.mp member with member | member
    · exact inner spelled c member
    · rw [List.mem_singleton.mp member]
      decide

/-! ### Binary numbers -/

/-- A decimal as the search for the shortest one leaves it: its first digit is a zero only for the
number zero. -/
structure Proper (d : Binary64.Decimal) : Prop where
  nonempty : d.digits ≠ []
  digits : Digits d.digits
  lead : d.digits.head? = some '0' → d.digits = ['0'] ∧ d.point = 1

theorem proper_zero : Proper ⟨['0'], 1⟩ := ⟨by simp, by simp [Digits], fun _ => ⟨rfl, rfl⟩⟩

/-- Only a positive numerator lies in an interval of positive numbers. -/
theorem holds_zero {i : Binary64.Interval} (positive : 0 < i.low) {den : Nat} (pos : 0 < den) :
    i.holds 0 den = false := by
  have low : 0 < i.low * den := Nat.mul_pos positive pos
  simp only [Binary64.Interval.holds, Nat.zero_mul]
  split
  · simp; omega
  · simp

theorem gridHit?_ne_zero {i : Binary64.Interval} (positive : 0 < i.low) {point : Int} {count n : Nat}
    (hit : Binary64.gridHit? i point count = some n) : n ≠ 0 := by
  have pos : 0 < Nat.pow 10 (-(point - count)).toNat := Nat.pow_pos (by decide)
  rintro rfl
  have outside := holds_zero positive pos
  unfold Binary64.gridHit? at hit
  simp only at hit
  split at hit
  · rename_i first second
    split at hit
    · simp only [Option.some.injEq] at hit
      rw [hit, Nat.zero_mul, outside] at first
      cases first
    · simp at hit
  · rename_i first second
    simp only [Option.some.injEq] at hit
    rw [hit, Nat.zero_mul, outside] at first
    cases first
  · simp at hit
  · cases hit

/-- Zeros at the end are dropped from digits that start with another one. -/
theorem dropTrailing_cons {first : Char} {others : Text} (nonzero : first ≠ '0') :
    ∃ kept, ((first :: others).reverse.dropWhile (· = '0')).reverse = first :: kept ∧
      ∀ c ∈ kept, c ∈ others := by
  refine ⟨(others.reverse.dropWhile (· = '0')).reverse, ?_, ?_⟩
  · rw [List.reverse_cons, List.dropWhile_append]
    split
    · rename_i empty
      simp [List.isEmpty_iff.mp empty, nonzero]
    · simp
  · intro c member
    exact List.mem_reverse.mp ((List.dropWhile_sublist _).subset (List.mem_reverse.mp member))

theorem proper_shortestFrom {i : Binary64.Interval} (positive : 0 < i.low) (point : Int)
    (count tries : Nat) : Proper (Binary64.shortestFrom i point count tries) := by
  induction tries generalizing count with
  | zero => exact proper_zero
  | succ tries ih =>
    unfold Binary64.shortestFrom
    split
    · rename_i n hit
      obtain ⟨first, others, cut, digit, nonzero, all⟩ := ofNat_cons (gridHit?_ne_zero positive hit)
      obtain ⟨kept, trimmed, within⟩ := @dropTrailing_cons first others nonzero
      simp only [cut, trimmed]
      refine ⟨by simp, ?_, fun head => absurd (Option.some.inj head) nonzero⟩
      intro c member
      rcases List.mem_cons.mp member with rfl | member
      · exact digit
      · exact all c (within c member)
    · exact ih _

theorem proper_shortest (significand : Nat) (exponent : Int) :
    Proper (Binary64.shortest significand exponent) := by
  unfold Binary64.shortest
  split
  · exact proper_zero
  · rename_i nonzero
    apply proper_shortestFrom
    have scale : 0 < Nat.pow 2 (exponent - 2).toNat := Nat.pow_pos (by decide)
    refine Nat.mul_pos ?_ scale
    split <;> omega

/-- A numeral that denotes a binary number. -/
structure IsBinary (n : Numeral) : Prop where
  formed : n.WellFormed
  unsigned : n.negative = false
  binary : ¬ (n.fraction?.isNone ∧ n.exponent?.isNone)

theorem digits_replicate (count : Nat) : Digits (List.replicate count '0') := by
  intro c member
  rw [List.eq_of_mem_replicate member]
  decide

theorem digits_append {s t : Text} (first : Digits s) (second : Digits t) : Digits (s ++ t) :=
  fun c member => (List.mem_append.mp member).elim (first c) (second c)

theorem whole_singleton {c : Char} (digit : c.isDigit = true) : Numeral.Whole [c] := by
  by_cases zero : c = '0'
  · rw [zero]; exact .zero
  · exact .digits digit zero (by simp [Digits])

/-- Whole digits of a proper decimal whose point stands behind its first digit. -/
theorem Proper.whole {d : Binary64.Decimal} (proper : Proper d) (positive : ¬ d.point ≤ 0)
    (zeros : Text) (all : Digits zeros) :
    Numeral.Whole ((d.digits ++ zeros).take d.point.toNat) := by
  obtain ⟨first, others, cut⟩ := List.exists_cons_of_ne_nil proper.nonempty
  obtain ⟨more, whole⟩ : ∃ more, d.point.toNat = more + 1 := ⟨d.point.toNat - 1, by omega⟩
  have digits := proper.digits
  rw [cut] at digits
  obtain ⟨digit, behind⟩ := List.forall_mem_cons.mp digits
  by_cases zero : first = '0'
  · obtain ⟨alone, point⟩ := proper.lead (by rw [cut, zero]; rfl)
    rw [alone, point]
    exact .zero
  · rw [cut, whole, List.cons_append, List.take_succ_cons]
    exact .digits digit zero fun c member =>
      digits_append behind all c (List.mem_of_mem_take member)

/-- Digits with a point after some of them are a binary number. -/
theorem binary_pointed {whole fraction : Text} (lead : Numeral.Whole whole)
    (nonempty : fraction ≠ []) (all : Digits fraction) :
    ∃ n : Numeral, IsBinary n ∧ whole ++ '.' :: fraction = n.text := by
  refine ⟨⟨false, whole, some fraction, none⟩, ⟨⟨lead, ?_, by simp⟩, rfl, by simp⟩, ?_⟩
  · rintro digits same
    cases same
    exact ⟨nonempty, all⟩
  · simp [Numeral.text, Numeral.unsigned, Numeral.fractionText, Numeral.exponentText]

/-- A digit, perhaps with others behind the point, and an exponent are a binary number. -/
theorem binary_scaled {first sign : Char} {fraction? : Option Text} {size : Text}
    (lead : first.isDigit = true) (some' : ∀ digits ∈ fraction?, digits ≠ [] ∧ Digits digits)
    (signed : sign = '-' ∨ sign = '+') (nonempty : size ≠ []) (all : Digits size) :
    ∃ n : Numeral, IsBinary n ∧
      first :: Numeral.fractionText fraction? ++ 'e' :: sign :: size = n.text := by
  refine ⟨⟨false, [first], fraction?, some ⟨'e', some sign, size⟩⟩,
    ⟨⟨whole_singleton lead, some', ?_⟩, rfl, by simp⟩, ?_⟩
  · rintro e same
    cases same
    refine ⟨.inl rfl, .inr ?_, nonempty, all⟩
    rcases signed with rfl | rfl
    · exact .inl rfl
    · exact .inr rfl
  · simp [Numeral.text, Numeral.unsigned, Numeral.exponentText, Exponent.text, Exponent.size]

/-- The text of a proper decimal spells a binary number. -/
theorem toText_binary {d : Binary64.Decimal} (proper : Proper d) :
    ∃ n : Numeral, IsBinary n ∧ d.toText = n.text := by
  unfold Binary64.Decimal.toText
  split
  · split
    · -- the first digit stands behind the point
      refine binary_pointed .zero ?_ (digits_append (digits_replicate _) proper.digits)
      simp [proper.nonempty]
    · rename_i positive
      have zeros := digits_replicate (d.point.toNat + 1 - d.digits.length)
      refine binary_pointed (proper.whole positive _ zeros) ?_
        fun c member => digits_append proper.digits zeros c (List.mem_of_mem_drop member)
      intro empty
      have short := List.drop_eq_nil_iff.mp empty
      simp at short
      omega
  · obtain ⟨first, others, cut⟩ := List.exists_cons_of_ne_nil proper.nonempty
    have digits := proper.digits
    rw [cut] at digits
    obtain ⟨digit, behind⟩ := List.forall_mem_cons.mp digits
    have signed : (if d.point - 1 < 0 then '-' else '+') = '-' ∨
        (if d.point - 1 < 0 then '-' else '+') = '+' := by
      split <;> simp
    have all := digits_append (digits_replicate (2 - (Text.ofNat (d.point - 1).natAbs).length))
      (digits_ofNat (d.point - 1).natAbs)
    have nonempty : List.replicate (2 - (Text.ofNat (d.point - 1).natAbs).length) '0'
        ++ Text.ofNat (d.point - 1).natAbs ≠ [] := by
      simp [Text.ofNat, Nat.toDigits_ne_nil]
    simp only [cut]
    cases others with
    | nil => exact @binary_scaled _ _ none _ digit (by simp) signed nonempty all
    | cons second more =>
      refine @binary_scaled _ _ (some (second :: more)) _ digit ?_ signed nonempty all
      rintro fraction same
      cases same
      exact ⟨by simp, behind⟩

theorem IsBinary.spelled {n : Numeral} (binary : IsBinary n) :
    ∃ b, Spells (.value (.float b)) n.text :=
  ⟨_, .number binary.formed (by rw [Numeral.value?, if_neg binary.binary])⟩

/-- The written form of a binary number spells one. -/
theorem writtenFloat_spelled (b : Binary64) :
    ∃ b', Spells (.value (.float b')) (writtenFloat b) := by
  cases b with
  | nan => exact ⟨.nan, .word (by simp [words, writtenFloat])⟩
  | infinity negative => exact ⟨.infinity negative, .word (by
      cases negative <;> simp [words, writtenFloat])⟩
  | finite negative significand exponent =>
    obtain ⟨n, binary, text⟩ := toText_binary (proper_shortest significand exponent)
    simp only [writtenFloat, Binary64.toText, text]
    cases negative with
    | false => exact binary.spelled
    | true =>
      have signed : Numeral.WellFormed { n with negative := true } := ⟨binary.formed.whole,
        binary.formed.fraction, binary.formed.exponent⟩
      have same : '-' :: n.text = Numeral.text { n with negative := true } := by
        simp [Numeral.text, Numeral.unsigned, binary.unsigned]
      simp only [if_true, same]
      exact ⟨_, .number signed (by rw [Numeral.value?, if_neg binary.binary])⟩

end ImportResolution.Json
