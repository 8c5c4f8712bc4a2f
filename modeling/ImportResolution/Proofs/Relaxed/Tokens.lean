import ImportResolution.Host
import ImportResolution.Proofs.Json.Notation
import ImportResolution.Proofs.Json.Written
import ImportResolution.Proofs.Relaxed.Rule
import ImportResolution.Relaxed.Reader

/-! The smallest parts of a strict document, in the relaxed notation: its blanks, strings and
numbers are blanks, strings and numbers there. A character that is written as an escaped surrogate
pair is the exception, since the relaxed notation does not join the pair. -/
namespace ImportResolution

namespace Json

/-- Two numeric escapes, one right behind the other, of the two halves of a surrogate pair. -/
inductive EscapedPair : Text → Prop where
  | halves {a b c d a' b' c' d' : Char} {high low : Nat} (first : hexCode? a b c d = some high)
      (second : hexCode? a' b' c' d' = some low) (isHigh : 0xD800 ≤ high ∧ high < 0xDC00)
      (isLow : 0xDC00 ≤ low ∧ low < 0xE000) :
      EscapedPair ['\\', 'u', a, b, c, d, '\\', 'u', a', b', c', d']

/-- A text in which no character is written as an escaped surrogate pair. -/
def PairFree (text : Text) : Prop := ∀ pair, EscapedPair pair → ¬ pair <:+: text

theorem PairFree.inside {part whole : Text} (free : PairFree whole) (inside : part <:+: whole) :
    PairFree part := fun pair escaped within => free pair escaped (within.trans inside)

/-- Without a backslash there are no escapes. -/
theorem pairFree_of_plain {text : Text} (plain : '\\' ∉ text) : PairFree text := by
  rintro pair ⟨⟩ inside
  exact plain (inside.mem (List.mem_cons_self ..))

theorem joinSurrogates_cons {code : Nat} {others : List Nat}
    (apart : ∀ low ∈ others.head?, ¬ (0xD800 ≤ code ∧ code < 0xDC00 ∧ 0xDC00 ≤ low ∧ low < 0xE000)) :
    joinSurrogates (code :: others) = Text.charOfCode code :: joinSurrogates others := by
  cases others with
  | nil => simp [joinSurrogates]
  | cons low others =>
    rw [joinSurrogates, if_neg (apart low rfl)]

/-- Without escaped pairs every code is a character of its own. -/
theorem joinSurrogates_of_pairFree {codes : List Nat} {text : Text}
    (spelled : SpellsCodes codes text) (free : PairFree text) :
    joinSurrogates codes = codes.map Text.charOfCode := by
  have apart : ∀ c : Char, ¬ (0xD800 ≤ c.toNat ∧ c.toNat < 0xE000) := by
    intro c surrogate
    have valid : c.toNat < 0xD800 ∨ 0xDFFF < c.toNat ∧ c.toNat < 0x110000 := c.valid
    omega
  induction spelled with
  | nil => rfl
  | @plain c quote backslash printable others text more ih =>
    have alone := apart c
    have inside : text <:+: c :: text := ⟨[c], [], by simp⟩
    rw [joinSurrogates_cons (by omega), ih (free.inside inside), List.map_cons]
  | @escape c meant means others text more ih =>
    have alone := apart meant
    have inside : text <:+: '\\' :: c :: text := ⟨['\\', c], [], by simp⟩
    rw [joinSurrogates_cons (by omega), ih (free.inside inside), List.map_cons]
  | @unicode a b c d code means others text more ih =>
    have inside : text <:+: '\\' :: 'u' :: a :: b :: c :: d :: text :=
      ⟨['\\', 'u', a, b, c, d], [], by simp⟩
    rw [joinSurrogates_cons ?_, ih (free.inside inside), List.map_cons]
    -- only a numeric escape can spell the second half
    rintro low head ⟨high, isHigh, isLow, low'⟩
    cases more with
    | nil => cases head
    | @plain c => cases head; exact apart c ⟨by omega, by omega⟩
    | @escape c meant => cases head; exact apart meant ⟨by omega, by omega⟩
    | @unicode a' b' c' d' code' means' others text more =>
      cases head
      exact free _ (.halves means means' ⟨high, isHigh⟩ ⟨isLow, low'⟩) ⟨[], text, by simp⟩

end Json

namespace Relaxed

open Rule

variable {s text rest : Text} {c : Char}

/-! ### Blanks -/

/-- The characters that can follow the blanks of a strict document. -/
def solids : List Char := "0123456789\"[]\x7b\x7d,:-ntfNI".toList

/-- A text that does not go on with a blank: it is at its end, or at something solid. -/
def Solid (s : Text) : Prop := ∀ c ∈ s.head?, c ∈ solids

theorem solid_cons (listed : c ∈ solids) (tail : Text) : Solid (c :: tail) := by
  rintro x ⟨⟩
  exact listed

theorem misses_lineEnd (solid : Solid s) : Misses lineEnd s := by
  have others : ∀ c ∈ solids, c ≠ '\r' ∧ c ∉ ['\r', '\n', '\u2028', '\u2029'] :=
    forall_listed (by decide)
  exact misses_orElse (misses_bind (misses_char fun c head => (others c (solid c head)).1))
    (misses_bind (misses_oneOf fun c head => (others c (solid c head)).2))

/-- Where a document goes on there is no blank, not even of the relaxed notation. -/
theorem misses_blank (solid : Solid s) : Misses blank s := by
  have others : ∀ c ∈ solids, c ≠ ' ' ∧ c ≠ '/' ∧
      c ∉ ['\t', '\x0b', '\x0c', '\u00a0', '\ufeff'] ∧ Text.isSpaceSeparator c = false :=
    forall_listed (by decide)
  have slash : ∀ marks, Misses (literal ('/' :: marks)) s := fun marks =>
    misses_literal marks fun c head => (others c (solid c head)).2.1
  have comment : Misses comment s := misses_orElse (misses_bind (slash _)) (misses_bind (slash _))
  refine misses_orElse (misses_bind (misses_char fun c head => (others c (solid c head)).1)) <|
    misses_orElse (misses_lineEnd solid) <| misses_orElse comment <|
    misses_orElse (misses_bind (misses_oneOf fun c head => (others c (solid c head)).2.2.1)) <|
    misses_bind (misses_not (finds_not (misses_ofClass fun c head => ?_)))
  exact (others c (solid c head)).2.2.2

/-- A carriage return alone is the end of a line. -/
theorem finds_lineEnd (other : ∀ x ∈ s.head?, x ≠ '\n') : Finds lineEnd ('\r' :: s) () s :=
  finds_second (misses_bind_next (finds_char '\r' s) (misses_bind (misses_char other)))
    (finds_bind (finds_oneOf (by decide) s) (finds_pure () s))

/-- Any blank of the strict notation is one of the relaxed notation; a carriage return and a line
feed after it are one together. -/
theorem finds_blank (blank : Json.isBlank c = true)
    (apart : c = '\r' → ∀ x ∈ s.head?, x ≠ '\n') : Finds Rule.blank (c :: s) () s := by
  simp only [Json.isBlank, Bool.or_eq_true, decide_eq_true_eq] at blank
  rcases blank with ((rfl | rfl) | rfl) | rfl
  · exact finds_first (finds_bind (finds_char ' ' s) (finds_pure () s))
  · have line : Misses lineEnd ('\t' :: s) := misses_orElse
      (misses_bind (misses_char (by simp))) (misses_bind (misses_oneOf (by simp)))
    have slash : ∀ marks, Misses (literal ('/' :: marks)) ('\t' :: s) := fun marks =>
      misses_literal marks (by simp)
    exact finds_second (misses_bind (misses_char (by simp))) <| finds_second line <|
      finds_second (misses_orElse (misses_bind (slash _)) (misses_bind (slash _))) <|
      finds_first (finds_bind (finds_oneOf (by decide) s) (finds_pure () s))
  · exact finds_second (misses_bind (misses_char (by simp))) <| finds_first <|
      finds_second (misses_bind (misses_char (by simp)))
        (finds_bind (finds_oneOf (by decide) s) (finds_pure () s))
  · exact finds_second (misses_bind (misses_char (by simp)))
      (finds_first (finds_lineEnd (apart rfl)))

theorem repeats_blank (blank : Json.Blanks text) (solid : Solid rest) :
    ∃ units, Repeats Rule.blank (text ++ rest) units rest := by
  have feed : ∀ {s : Text}, Solid s → ∀ x ∈ s.head?, x ≠ '\n' := by
    rintro s solid x head rfl
    exact absurd (solid _ head) (by decide)
  fun_induction Host.unifyLineEnds text with
  | case1 => exact ⟨[], .done (misses_blank solid)⟩
  | case2 text ih =>
    -- the two ends of a line are one blank here
    obtain ⟨units, more⟩ := ih fun c member => blank c (by simp [member])
    refine ⟨() :: units, .more ?_ (length_lt_of_taken _ [_] _) more⟩
    exact finds_second (misses_bind (misses_char (by simp))) <| finds_first <| finds_first <|
      finds_bind (finds_char '\r' _) (finds_bind (finds_char '\n' _) (finds_pure () _))
  | case3 text alone ih =>
    obtain ⟨units, more⟩ := ih fun c member => blank c (by simp [member])
    refine ⟨() :: units, .more ?_ (by simp) more⟩
    refine finds_blank (by decide) fun _ => ?_
    cases text with
    | nil => exact feed solid
    | cons c text => rintro x ⟨⟩ rfl; exact alone _ rfl
  | case4 c text _ other ih =>
    obtain ⟨units, more⟩ := ih fun c member => blank c (by simp [member])
    refine ⟨() :: units, .more ?_ (by simp) more⟩
    exact finds_blank (blank c (by simp)) fun same => absurd same other

theorem finds_blanks (blank : Json.Blanks text) (solid : Solid rest) :
    Finds blanks (text ++ rest) () rest := by
  obtain ⟨units, repeats⟩ := repeats_blank blank solid
  exact finds_bind (finds_many repeats) (finds_pure () rest)

/-! ### Strings -/

/-- A character that may stand for itself between quotation marks of the strict notation. -/
theorem finds_plain (quote : c ≠ '"') (backslash : c ≠ '\\') (printable : ¬ c < ' ') (s : Text) :
    Finds (stringElement '"') (c :: s) (some c) s := by
  have feed : c ≠ '\r' ∧ c ≠ '\n' :=
    ⟨by rintro rfl; exact printable (by decide), by rintro rfl; exact printable (by decide)⟩
  have element : Misses (oneOf ['\\', '"', '\r', '\n']) (c :: s) := misses_oneOf (by
    rintro x ⟨⟩
    simp [quote, backslash, feed])
  exact finds_first <| finds_bind (finds_not element) <| finds_bind (finds_any c s) <|
    finds_pure _ s

/-- Behind a backslash the element is an escape. -/
theorem finds_escaped {meant : Char} (means : Finds escape text meant rest) :
    Finds (stringElement '"') ('\\' :: text) (some meant) rest :=
  finds_second (misses_bind (misses_not (finds_oneOf (by decide) text))) <| finds_first <|
    finds_bind (finds_char _ text) <| finds_bind means <| finds_pure _ rest

/-- The letters of the strict notation stand for what they stand for there; a slash, which has no
meaning of its own here, for itself. -/
theorem finds_shortEscape {meant : Char} (means : Json.shortEscape? c = some meant) (s : Text) :
    Finds escape (c :: s) meant s := by
  have lettered : shortEscape? c = some meant → Finds escape (c :: s) meant s := by
    intro same
    have found : Finds (satisfy fun c => (shortEscape? c).isSome) (c :: s) c s :=
      finds_satisfy (by simp [same]) s
    refine finds_first (finds_bind found ?_)
    rw [same]
    exact finds_pure meant s
  unfold Json.shortEscape? at means
  split at means
  case h_3 =>
    cases means
    have alone : Misses ((do let _ ← oneOf ['x', 'u']) <|> (do let _ ← digit) <|> lineEnd)
        ('/' :: s) :=
      misses_orElse (misses_bind (misses_oneOf (by simp))) <|
        misses_orElse (misses_bind (misses_satisfy (by simp))) <|
        misses_orElse (misses_bind (misses_char (by simp))) (misses_bind (misses_oneOf (by simp)))
    exact finds_second (misses_bind (misses_satisfy (by simp [shortEscape?]))) <| finds_first <|
      finds_bind (finds_not alone) (finds_any '/' s)
  all_goals
    cases means
    try exact lettered rfl

/-- Four hexadecimal digits are the code that they are in the strict notation. -/
theorem finds_unicodeEscape {a b c d : Char} {code : Nat}
    (means : Json.hexCode? a b c d = some code) (s : Text) :
    Finds escape ('u' :: a :: b :: c :: d :: s) (Text.charOfCode code) s := by
  simp only [Json.hexCode?, Option.bind_eq_bind, Option.bind_eq_some_iff, pure,
    Option.some.injEq] at means
  obtain ⟨first, isFirst, second, isSecond, third, isThird, fourth, isFourth, rfl⟩ := means
  have digit : ∀ {x : Char} {value : Nat}, Text.hexValue? x = some value → ∀ rest,
      Finds hexDigit (x :: rest) x rest :=
    fun same rest => finds_satisfy (by simp [same]) rest
  have digits : Finds (hexCode 4 0) (a :: b :: c :: d :: s)
      (Text.charOfCode (((first * 16 + second) * 16 + third) * 16 + fourth)) s := by
    refine finds_bind (digit isFirst _) <| finds_bind (digit isSecond _) <|
      finds_bind (digit isThird _) <| finds_bind (digit isFourth _) ?_
    simp only [isFirst, isSecond, isThird, isFourth, Option.getD_some, Nat.zero_mul, Nat.zero_add]
    exact finds_pure _ s
  have letter : Misses (do
      not ((do let _ ← oneOf ['x', 'u']) <|> (do let _ ← Rule.digit) <|> lineEnd)
      any) ('u' :: a :: b :: c :: d :: s) :=
    misses_bind (misses_not (finds_first (finds_bind (finds_oneOf (by decide) _)
      (finds_pure () _))))
  exact finds_second (misses_bind (misses_satisfy (by simp [shortEscape?]))) <|
    finds_second letter <| finds_second (misses_bind (misses_char (by simp))) <|
    finds_second (misses_bind (misses_char (by simp))) <| finds_bind (finds_char 'u' _) digits

/-- What is spelled between quotation marks is read code by code. -/
theorem repeats_codes {codes : List Nat} (spelled : Json.SpellsCodes codes text) (rest : Text) :
    Repeats (stringElement '"') (text ++ '"' :: rest)
      (codes.map fun code => some (Text.charOfCode code)) ('"' :: rest) := by
  induction spelled with
  | nil =>
    refine .done (misses_orElse (misses_bind (misses_not (finds_oneOf (by decide) rest))) ?_)
    exact misses_orElse (misses_bind (misses_char (by simp))) (misses_bind (misses_char (by simp)))
  | @plain c quote backslash printable others text more ih =>
    rw [List.map_cons, Json.charOfCode_toNat]
    exact .more (finds_plain quote backslash printable _) (by simp) ih
  | @escape c meant means others text more ih =>
    rw [List.map_cons, Json.charOfCode_toNat]
    exact .more (finds_escaped (finds_shortEscape means _)) (length_lt_of_taken _ [_] _) ih
  | unicode means more ih =>
    exact .more (finds_escaped (finds_unicodeEscape means _))
      (length_lt_of_taken _ [_, _, _, _, _] _) ih

/-- A string of the strict notation is a string here, and without escaped pairs the same one. -/
theorem finds_string {read : Text} (spelled : Json.SpellsString read text) (rest : Text) :
    ∃ read', Finds string (text ++ rest) read' rest ∧ (Json.PairFree text → read' = read) := by
  obtain ⟨spelled⟩ := spelled
  rename_i codes inner
  have elements : (codes.map fun code => some (Text.charOfCode code)).filterMap id
      = codes.map Text.charOfCode := by
    simp [List.filterMap_map]
  refine ⟨codes.map Text.charOfCode, ?_, fun free => ?_⟩
  · rw [← elements, List.cons_append, List.append_assoc]
    exact finds_second (misses_bind (misses_char (by simp))) <| finds_bind (finds_char '"' _) <|
      finds_bind (finds_many (repeats_codes spelled rest)) <| finds_bind (finds_char '"' rest) <|
      finds_pure _ rest
  · have inside : inner <:+: '"' :: (inner ++ ['"']) := ⟨['"'], ['"'], by simp⟩
    rw [Json.joinSurrogates_of_pairFree spelled (free.inside inside)]

/-! ### Numbers -/

theorem misses_digit (stop : Json.NoDigit s) : Misses digit s := misses_satisfy stop

theorem finds_digits {digits : Text} (all : Json.Digits digits) (stop : Json.NoDigit rest) :
    Finds (many digit) (digits ++ rest) digits rest := by
  refine finds_many ?_
  induction digits with
  | nil => exact .done (misses_digit stop)
  | cons c digits ih =>
    obtain ⟨first, others⟩ := List.forall_mem_cons.mp all
    exact .more (finds_satisfy first _) (by simp) (ih others)

theorem finds_whole {digits : Text} (formed : Json.Numeral.Whole digits)
    (stop : Json.NoDigit rest) : Finds whole (digits ++ rest) digits rest := by
  cases formed with
  | zero =>
    exact finds_first <| finds_bind (finds_char '0' rest) <|
      finds_bind (finds_not (misses_digit stop)) (finds_pure _ rest)
  | @digits first others digit nonzero all =>
    have lead : Finds (satisfy fun c => c.isDigit && c ≠ '0') (first :: (others ++ rest)) first
        (others ++ rest) := finds_satisfy (by simp [digit, nonzero]) _
    refine finds_second (misses_bind (misses_char ?_)) <| finds_bind lead <|
      finds_bind (finds_digits all stop) (finds_pure _ rest)
    rintro x ⟨⟩
    exact nonzero

theorem finds_exponent {e : Json.Exponent} (formed : e.WellFormed) (stop : Json.NoDigit rest) :
    Finds exponent (e.text ++ rest) e.size rest := by
  obtain ⟨mark, sign?, digits⟩ := e
  obtain ⟨marked, sign, nonempty, all⟩ := formed
  have listed : mark ∈ ['e', 'E'] := by simpa using marked
  have signed : ∀ sign ∈ ['+', '-'], Finds exponent (mark :: sign :: (digits ++ rest))
      (sign :: digits) rest := fun sign listed' =>
    finds_bind (finds_oneOf listed _) <| finds_first <| finds_bind (finds_oneOf listed' _) <|
      finds_bind (finds_digits all stop) (finds_pure _ rest)
  rcases sign with rfl | rfl | rfl
  · refine finds_bind (finds_oneOf listed (digits ++ rest)) <|
      finds_second (misses_bind (misses_oneOf ?_)) (finds_digits all stop)
    -- without a sign a digit comes first
    intro x head sign
    obtain ⟨first, others, cut⟩ := List.exists_cons_of_ne_nil nonempty
    simp only at cut
    rw [cut] at head
    cases head
    have digit : x.isDigit = true := all x (by simp [cut])
    have none : ∀ x ∈ ['+', '-'], x.isDigit = false := forall_listed (by decide)
    simp [none x sign] at digit
  · exact signed '-' (by decide)
  · exact signed '+' (by decide)

/-- A numeral of the strict notation as it is read here. -/
def ofStrict (n : Json.Numeral) : Numeral :=
  ⟨n.negative, .decimal n.whole n.fraction? (n.exponent?.map Json.Exponent.size)⟩

theorem delimiter_of_head {x : Char} (ended : Json.Delimited rest) (head : x ∈ rest.head?) :
    x ∈ [' ', '\t', '\n', '\r', ',', ']', '\x7d'] := by
  cases ended with
  | nil => cases head
  | cons ends tail => cases head; exact ends

theorem finds_decimal {n : Json.Numeral} (formed : n.WellFormed) (ended : Json.Delimited rest) :
    Finds decimal (n.unsigned ++ rest) (ofStrict n).magnitude rest := by
  obtain ⟨negative, digits, fraction?, exponent?⟩ := n
  obtain ⟨isWhole, isFraction, isExponent⟩ := formed
  have stopExponent := Json.noDigit_exponentText isExponent ended
  have third : Finds (optional exponent) (Json.Numeral.exponentText exponent? ++ rest)
      (exponent?.map Json.Exponent.size) rest := by
    cases exponent? with
    | some e => exact finds_optional (finds_exponent (isExponent e rfl) ended.noDigit)
    | none =>
      refine finds_optional_none (misses_bind (misses_oneOf ?_))
      have others : ∀ x ∈ [' ', '\t', '\n', '\r', ',', ']', '\x7d'], x ∉ ['e', 'E'] :=
        forall_listed (by decide)
      exact fun x head => others x (delimiter_of_head ended head)
  have second : Finds (optional fraction)
      (Json.Numeral.fractionText fraction? ++ (Json.Numeral.exponentText exponent? ++ rest))
      fraction? (Json.Numeral.exponentText exponent? ++ rest) := by
    cases fraction? with
    | some digits =>
      exact finds_optional (finds_bind (finds_char '.' _)
        (finds_digits (isFraction digits rfl).2 stopExponent))
    | none =>
      refine finds_optional_none (misses_bind (misses_char ?_))
      rintro x head rfl
      cases exponent? with
      | none => exact absurd (delimiter_of_head ended head) (by decide)
      | some e =>
        rcases (isExponent e rfl).mark with mark | mark <;>
          simp [Json.Numeral.fractionText, Json.Numeral.exponentText, Json.Exponent.text, mark]
            at head
  have first := finds_whole isWhole (Json.noDigit_fractionText fraction? isExponent ended)
  have same : Json.Numeral.unsigned ⟨negative, digits, fraction?, exponent?⟩ ++ rest
      = digits ++ (Json.Numeral.fractionText fraction?
        ++ (Json.Numeral.exponentText exponent? ++ rest)) := by
    simp [Json.Numeral.unsigned]
  rw [same]
  exact finds_first <| finds_bind first <| finds_bind second <| finds_bind third <|
    finds_pure _ rest

/-- No name follows a decimal that ends where a value ends. -/
theorem misses_nameStart (ended : Json.Delimited rest) : Misses nameStart rest := by
  have others : ∀ x ∈ [' ', '\t', '\n', '\r', ',', ']', '\x7d'],
      isPlainNameStart x = false ∧ Text.isLetter x = false ∧ x ≠ '\\' :=
    forall_listed (by decide +kernel)
  have other := fun x (head : x ∈ rest.head?) => others x (delimiter_of_head ended head)
  exact misses_orElse (misses_satisfy fun x head => (other x head).1) <|
    misses_orElse (misses_ofClass fun x head => (other x head).2.1) <|
    misses_bind (misses_literal _ fun x head => (other x head).2.2)

/-- A numeral of the strict notation is one here. -/
theorem finds_numeral {n : Json.Numeral} (formed : n.WellFormed) (ended : Json.Delimited rest) :
    Finds numeral (n.text ++ rest) (ofStrict n) rest := by
  have unsigned : Finds magnitude (n.unsigned ++ rest) (ofStrict n).magnitude rest :=
    finds_first <| finds_bind (finds_decimal formed ended) <|
      finds_bind (finds_not (misses_nameStart ended)) (finds_pure _ rest)
  unfold Json.Numeral.text
  cases signed : n.negative with
  | true =>
    have same : ofStrict n = ⟨true, (ofStrict n).magnitude⟩ := by rw [ofStrict, signed]
    rw [if_pos rfl, same]
    exact finds_first (finds_bind (finds_char '-' _) (finds_bind unsigned (finds_pure _ rest)))
  | false =>
    have same : ofStrict n = ⟨false, (ofStrict n).magnitude⟩ := by rw [ofStrict, signed]
    obtain ⟨first, others, head, digit⟩ := formed.whole.head
    have begins : ∀ x ∈ (n.unsigned ++ rest).head?, x ≠ '-' ∧ x ≠ '+' := by
      rintro x start
      simp only [Json.Numeral.unsigned, head, List.cons_append, List.head?_cons,
        Option.mem_some_iff] at start
      subst start
      constructor <;> rintro rfl <;> simp at digit
    rw [if_neg (by simp), same]
    exact finds_second (misses_bind (misses_char fun x start => (begins x start).1)) <|
      finds_second (misses_bind (misses_char fun x start => (begins x start).2)) <|
      finds_bind unsigned (finds_pure _ rest)

/-- The exponent denotes what it denotes in the strict notation. -/
theorem exponentValue_size {e : Json.Exponent} (formed : e.WellFormed) :
    exponentValue? e.size = some e.value := by
  obtain ⟨mark, sign?, digits⟩ := e
  obtain ⟨-, sign, nonempty, all⟩ := formed
  simp only at sign nonempty all
  rcases sign with rfl | rfl | rfl
  · obtain ⟨first, others, rfl⟩ := List.exists_cons_of_ne_nil nonempty
    have digit : first.isDigit = true := all first (by simp)
    have minus : first ≠ '-' := by rintro rfl; simp at digit
    have plus : first ≠ '+' := by rintro rfl; simp at digit
    simp [Json.Exponent.size, exponentValue?, Json.Exponent.value, minus, plus]
  · simp [Json.Exponent.size, exponentValue?, Json.Exponent.value, nonempty]
  · simp [Json.Exponent.size, exponentValue?, Json.Exponent.value, nonempty]

/-- A numeral of the strict notation denotes the same number here. -/
theorem value_ofStrict {n : Json.Numeral} {v : Json} (formed : n.WellFormed)
    (denotes : n.value? = some v) : (ofStrict n).value = .ok v := by
  obtain ⟨negative, digits, fraction?, exponent?⟩ := n
  have digitsHeld : digits ≠ [] := formed.whole.ne_nil
  simp only [Numeral.value, ofStrict, decimalValue, Option.isNone_map]
  simp only [Json.Numeral.value?] at denotes
  by_cases integral : fraction?.isNone ∧ exponent?.isNone
  · rw [if_pos integral] at denotes ⊢
    split at denotes
    · cases denotes
    · rename_i short
      cases denotes
      cases negative <;> simp [short]
  · rw [if_neg integral] at denotes ⊢
    have exponent : exponentValue? ((exponent?.map Json.Exponent.size).getD ['0'])
        = some ((exponent?.map Json.Exponent.value).getD 0) := by
      cases exponent? with
      | none => decide
      | some e => exact exponentValue_size (formed.exponent e rfl)
    cases denotes
    simp [exponent, digitsHeld]

end Relaxed
end ImportResolution
