import ImportResolution.Proofs.Json.Numeral
import ImportResolution.Proofs.Outcome

/-! The strict notation as a grammar: which texts spell a value, apart from how they are read. The
reader accepts a text with a value if and only if the text spells the value between blanks. -/
namespace ImportResolution.Json

variable {rest left text : Text} {v : Json} {fuel : Nat}

/-! ### Blanks -/

/-- Whether a character may stand between the parts of a document. -/
def isBlank (c : Char) : Bool := c = ' ' || c = '\t' || c = '\n' || c = '\r'

/-- A text of blanks. -/
def Blanks (s : Text) : Prop := ∀ c ∈ s, isBlank c = true

theorem blanks_nil : Blanks [] := by simp [Blanks]

theorem skipBlanks_blanks {blanks : Text} (all : Blanks blanks) (s : Text) :
    skipBlanks (blanks ++ s) = skipBlanks s :=
  List.dropWhile_append_of_pos all

theorem skipBlanks_cons {c : Char} (solid : isBlank c = false) (tail : Text) :
    skipBlanks (c :: tail) = c :: tail :=
  List.dropWhile_cons_of_neg (p := isBlank) (by simp [solid])

/-- What is skipped are blanks. -/
theorem exists_blanks (s : Text) : ∃ blanks, Blanks blanks ∧ s = blanks ++ skipBlanks s :=
  ⟨s.takeWhile isBlank, fun _ member => List.mem_takeWhile_imp member,
    List.takeWhile_append_dropWhile.symm⟩

/-! ### Strings -/

/-- The texts between quotation marks that spell a list of codes: characters that stand for
themselves, one-letter escapes and numeric ones. -/
inductive SpellsCodes : List Nat → Text → Prop where
  | nil : SpellsCodes [] []
  | plain {c : Char} (quote : c ≠ '"') (backslash : c ≠ '\\') (printable : ¬ c < ' ')
      {others : List Nat} {text : Text} (more : SpellsCodes others text) :
      SpellsCodes (c.toNat :: others) (c :: text)
  | escape {c meant : Char} (means : shortEscape? c = some meant) {others : List Nat} {text : Text}
      (more : SpellsCodes others text) : SpellsCodes (meant.toNat :: others) ('\\' :: c :: text)
  | unicode {a b c d : Char} {code : Nat} (means : hexCode? a b c d = some code)
      {others : List Nat} {text : Text} (more : SpellsCodes others text) :
      SpellsCodes (code :: others) ('\\' :: 'u' :: a :: b :: c :: d :: text)

/-- The texts that spell a string. -/
inductive SpellsString : Text → Text → Prop where
  | quoted {codes : List Nat} {text : Text} (spelled : SpellsCodes codes text) :
      SpellsString (joinSurrogates codes) ('"' :: (text ++ ['"']))

/-- What a reader makes of the first part of an answer leaves the text behind it as it is. -/
theorem map_read_eq_ok {α β : Type} {outcome : Except Stop (α × Text)} {f : α → β} {made : β} :
    (outcome.map fun (read, left) => (f read, left)) = .ok (made, left) ↔
      ∃ read, outcome = .ok (read, left) ∧ f read = made := by
  cases outcome <;> simp [Except.map, Prod.ext_iff]
  grind

theorem codes_plain (opening : Nat) {c : Char} (quote : c ≠ '"') (backslash : c ≠ '\\')
    (printable : ¬ c < ' ') (tail : Text) :
    codes opening (c :: tail)
      = (codes opening tail).map fun (codes, left) => (c.toNat :: codes, left) := by
  rw [codes.eq_def]
  split <;> rename_i same <;> cases same
  · exact absurd rfl quote
  · exact absurd rfl backslash
  · exact absurd rfl backslash
  · exact absurd rfl backslash
  · exact absurd rfl backslash
  · simp only [printable, if_false]

theorem codes_escape (opening : Nat) {c meant : Char} (means : shortEscape? c = some meant)
    (tail : Text) :
    codes opening ('\\' :: c :: tail)
      = (codes opening tail).map fun (codes, left) => (meant.toNat :: codes, left) := by
  have other : c ≠ 'u' := by rintro rfl; simp [shortEscape?] at means
  rw [codes.eq_def]
  split <;> rename_i same <;> cases same
  · exact absurd rfl other
  · exact absurd rfl other
  · simp only [means]
  · rename_i split
    exact absurd rfl (split _ _ rfl)

/-- The codes of a string are read up to its closing quotation mark. -/
theorem codes_of_spelled {opening : Nat} {read : List Nat} (spelled : SpellsCodes read text) :
    codes opening (text ++ '"' :: rest) = .ok (read, rest) := by
  induction spelled with
  | nil => simp [codes]
  | plain quote backslash printable more ih =>
    rw [List.cons_append, codes_plain opening quote backslash printable, ih]
    rfl
  | escape means more ih =>
    rw [List.cons_append, List.cons_append, codes_escape opening means, ih]
    rfl
  | unicode means more ih => simp [codes, means, ih, Except.map]

theorem spelled_of_codes {opening : Nat} {s : Text} {read : List Nat}
    (accepted : codes opening s = .ok (read, left)) :
    ∃ text, s = text ++ '"' :: left ∧ SpellsCodes read text := by
  fun_induction codes opening s generalizing read left with
  | case2 => cases accepted; exact ⟨[], rfl, .nil⟩
  | case6 a b c d tail closed code means ih =>
    obtain ⟨others, begun, rfl⟩ := map_read_eq_ok.mp accepted
    obtain ⟨text, rfl, spelled⟩ := ih begun
    exact ⟨_, rfl, .unicode means spelled⟩
  | case9 c tail _ _ meant means ih =>
    obtain ⟨others, begun, rfl⟩ := map_read_eq_ok.mp accepted
    obtain ⟨text, rfl, spelled⟩ := ih begun
    exact ⟨_, rfl, .escape means spelled⟩
  | case11 c tail quote alone _ _ escaped printable ih =>
    obtain ⟨others, begun, rfl⟩ := map_read_eq_ok.mp accepted
    obtain ⟨text, rfl, spelled⟩ := ih begun
    -- a backslash is followed by something, and then it is none that stands for itself
    have backslash : c ≠ '\\' := fun same => by
      cases text with
      | nil => exact escaped _ _ same rfl
      | cons next behind => exact escaped _ _ same rfl
    exact ⟨_, rfl, .plain quote backslash printable spelled⟩
  | _ => cases accepted

theorem string_of_spelled {read : Text} (spelled : SpellsString read text) :
    ∃ inner, text = '"' :: inner ∧ ∀ rest, string (inner ++ rest) = .ok (read, rest) := by
  obtain ⟨spelled⟩ := spelled
  refine ⟨_, rfl, fun rest => ?_⟩
  rw [List.append_assoc]
  exact map_read_eq_ok.mpr ⟨_, codes_of_spelled spelled, rfl⟩

theorem spelled_of_string {s read : Text} (accepted : string s = .ok (read, left)) :
    ∃ text, '"' :: s = text ++ left ∧ SpellsString read text := by
  obtain ⟨codes, begun, rfl⟩ := map_read_eq_ok.mp accepted
  obtain ⟨text, rfl, spelled⟩ := spelled_of_codes begun
  exact ⟨_, by simp, .quoted spelled⟩

/-! ### Values -/

/-- What a text can spell: a value, a member of an object, or what stands between brackets. -/
inductive Part where
  | value (v : Json)
  | member (m : Text × Json)
  | items (vs : List Json)
  | members (ms : List (Text × Json))

/-- The values that are written as words. -/
def words : List (Json × Text) :=
  [(.null, ['n', 'u', 'l', 'l']), (.bool true, ['t', 'r', 'u', 'e']),
   (.bool false, ['f', 'a', 'l', 's', 'e']), (.float .nan, ['N', 'a', 'N']),
   (.float (.infinity false), ['I', 'n', 'f', 'i', 'n', 'i', 't', 'y']),
   (.float (.infinity true), ['-', 'I', 'n', 'f', 'i', 'n', 'i', 't', 'y'])]

/-- The texts that spell a part of a document. Those of items and members end where the closing
bracket stands. -/
inductive Spells : Part → Text → Prop where
  | word {v : Json} {text : Text} (listed : (v, text) ∈ words) : Spells (.value v) text
  | number {n : Numeral} {v : Json} (formed : n.WellFormed) (denotes : n.value? = some v) :
      Spells (.value v) n.text
  | string {s text : Text} (spelled : SpellsString s text) : Spells (.value (.str s)) text
  | emptyArray {blanks : Text} (blank : Blanks blanks) :
      Spells (.value (.arr [])) ('[' :: (blanks ++ [']']))
  | array {blanks text : Text} {vs : List Json} (blank : Blanks blanks)
      (spelled : Spells (.items vs) text) :
      Spells (.value (.arr vs)) ('[' :: (blanks ++ (text ++ [']'])))
  | emptyObject {blanks : Text} (blank : Blanks blanks) :
      Spells (.value (.obj [])) ('\x7b' :: (blanks ++ ['\x7d']))
  | object {blanks text : Text} {ms : List (Text × Json)} (blank : Blanks blanks)
      (spelled : Spells (.members ms) text) :
      Spells (.value (object ms)) ('\x7b' :: (blanks ++ (text ++ ['\x7d'])))
  | lastItem {v : Json} {text blanks : Text} (spelled : Spells (.value v) text)
      (blank : Blanks blanks) : Spells (.items [v]) (text ++ blanks)
  | item {v : Json} {text before after others : Text} {vs : List Json}
      (spelled : Spells (.value v) text) (first : Blanks before) (second : Blanks after)
      (more : Spells (.items vs) others) :
      Spells (.items (v :: vs)) (text ++ (before ++ ',' :: (after ++ others)))
  | named {name spelling before after text : Text} {v : Json} (named : SpellsString name spelling)
      (first : Blanks before) (second : Blanks after) (spelled : Spells (.value v) text) :
      Spells (.member (name, v)) (spelling ++ (before ++ ':' :: (after ++ text)))
  | lastMember {m : Text × Json} {text blanks : Text} (spelled : Spells (.member m) text)
      (blank : Blanks blanks) : Spells (.members [m]) (text ++ blanks)
  | member {m : Text × Json} {text before after others : Text} {ms : List (Text × Json)}
      (spelled : Spells (.member m) text) (first : Blanks before) (second : Blanks after)
      (more : Spells (.members ms) others) :
      Spells (.members (m :: ms)) (text ++ (before ++ ',' :: (after ++ others)))

/-- Whether a value can begin with a character. -/
def opens (c : Char) : Bool :=
  c.isDigit || ['"', '[', '\x7b', '-', 'n', 't', 'f', 'N', 'I'].contains c

theorem isBlank_of_opens {c : Char} (opening : opens c = true) : isBlank c = false := by
  cases blank : isBlank c with
  | false => rfl
  | true =>
    simp only [isBlank, Bool.or_eq_true, decide_eq_true_eq] at blank
    rcases blank with ((rfl | rfl) | rfl) | rfl <;> exact absurd opening (by decide)

/-- Whether a part can begin with a character. -/
def Part.opens : Part → Char → Bool
  | .value _, c | .items _, c => Json.opens c
  | .member _, c | .members _, c => c = '"'

theorem Part.opens_imp {part : Part} {c : Char} (opening : part.opens c = true) :
    Json.opens c = true := by
  cases part with
  | value v => exact opening
  | items vs => exact opening
  | member m => rw [of_decide_eq_true opening]; decide
  | members ms => rw [of_decide_eq_true opening]; decide

theorem Numeral.WellFormed.head {n : Numeral} (formed : n.WellFormed) :
    ∃ c tail, n.text = c :: tail ∧ Json.opens c = true := by
  unfold Numeral.text
  split
  · exact ⟨_, _, rfl, by decide⟩
  · obtain ⟨first, others, head, digit⟩ := formed.whole.head
    exact ⟨first, _, by rw [Numeral.unsigned, head, List.cons_append],
      by simp [Json.opens, digit]⟩

theorem word_head (listed : (v, text) ∈ words) : ∃ c tail, text = c :: tail ∧ opens c = true := by
  simp only [words, List.mem_cons, Prod.mk.injEq, List.not_mem_nil, or_false] at listed
  rcases listed with ⟨-, rfl⟩ | ⟨-, rfl⟩ | ⟨-, rfl⟩ | ⟨-, rfl⟩ | ⟨-, rfl⟩ | ⟨-, rfl⟩ <;>
    exact ⟨_, _, rfl, by decide⟩

/-- A part begins with a character that opens one. -/
theorem Spells.head {part : Part} (spelled : Spells part text) :
    ∃ c tail, text = c :: tail ∧ part.opens c = true := by
  induction spelled with
  | word listed => exact word_head listed
  | number formed denotes => exact formed.head
  | string spelled => obtain ⟨spelled⟩ := spelled; exact ⟨_, _, rfl, rfl⟩
  | named named => obtain ⟨named⟩ := named; exact ⟨_, _, rfl, by simp [Part.opens]⟩
  | lastItem spelled blank ih | lastMember spelled blank ih =>
    obtain ⟨c, tail, rfl, opening⟩ := ih
    exact ⟨c, _, rfl, opening⟩
  | item spelled first second more ih | member spelled first second more ih =>
    obtain ⟨c, tail, rfl, opening⟩ := ih
    exact ⟨c, _, rfl, opening⟩
  | _ => exact ⟨_, _, rfl, rfl⟩

/-- Behind blanks a part is what is met first. -/
theorem Spells.skip {part : Part} (spelled : Spells part text) {blanks : Text}
    (blank : Blanks blanks) (behind : Text) :
    skipBlanks (blanks ++ (text ++ behind)) = text ++ behind := by
  obtain ⟨c, tail, rfl, opening⟩ := spelled.head
  rw [skipBlanks_blanks blank]
  exact skipBlanks_cons (isBlank_of_opens (Part.opens_imp opening)) _

/-- A part never begins with a character that opens none, such as a closing bracket. -/
theorem Spells.ne_cons {part : Part} (spelled : Spells part text) {c : Char}
    (other : opens c = false) (behind tail : Text) : text ++ behind ≠ c :: tail := by
  obtain ⟨first, others, rfl, opening⟩ := spelled.head
  rintro ⟨⟩
  rw [Part.opens_imp opening] at other
  cases other

/-! ### Reading what is spelled -/

theorem value_word (listed : (v, text) ∈ words) :
    value (fuel + 1) (text ++ rest) = .ok (v, rest) := by
  simp only [words, List.mem_cons, Prod.mk.injEq, List.not_mem_nil, or_false] at listed
  rcases listed with ⟨rfl, rfl⟩ | ⟨rfl, rfl⟩ | ⟨rfl, rfl⟩ | ⟨rfl, rfl⟩ | ⟨rfl, rfl⟩ | ⟨rfl, rfl⟩ <;>
    rfl

theorem value_digit {first : Char} (digit : first.isDigit = true) (tail : Text) :
    value (fuel + 1) (first :: tail) = number (first :: tail) := by
  rw [value.eq_def]
  simp only
  split <;> first
    | rfl
    | rename_i same
      obtain ⟨rfl, -⟩ := List.cons.inj same
      exact absurd digit (by decide)

theorem value_minus {first : Char} (digit : first.isDigit = true) (tail : Text) :
    value (fuel + 1) ('-' :: first :: tail) = number ('-' :: first :: tail) := by
  rw [value.eq_def]
  simp only
  split <;> first
    | rfl
    | rename_i same
      obtain ⟨sign, rest⟩ := List.cons.inj same
      first
        | exact absurd sign (by decide)
        | obtain ⟨rfl, -⟩ := List.cons.inj rest
          exact absurd digit (by decide)

/-- Where a numeral stands the reader reads a number. -/
theorem value_numeral {n : Numeral} (formed : n.WellFormed) :
    value (fuel + 1) (n.text ++ rest) = number (n.text ++ rest) := by
  obtain ⟨first, others, head, digit⟩ := formed.whole.head
  have behind : n.unsigned ++ rest = first :: (others ++ (Numeral.fractionText n.fraction?
      ++ (Numeral.exponentText n.exponent? ++ rest))) := by
    simp [Numeral.unsigned, head]
  unfold Numeral.text
  split
  · rw [List.cons_append, behind]
    exact value_minus digit _
  · rw [behind]
    exact value_digit digit _

theorem Delimited.blanks {blanks : Text} (blank : Blanks blanks) (ended : Delimited rest) :
    Delimited (blanks ++ rest) := by
  cases blanks with
  | nil => exact ended
  | cons c others =>
    have first : isBlank c = true := blank c (List.mem_cons_self ..)
    simp only [isBlank, Bool.or_eq_true, decide_eq_true_eq] at first
    rcases first with ((rfl | rfl) | rfl) | rfl <;> exact .cons (by decide) _

/-- What the reader makes of a part, given a search that is deep enough and a text behind it that
ends it. A member is read on the way to what follows it. -/
def ReadsBack : Part → Text → Prop
  | .value v, text => ∀ fuel rest, 2 * text.length ≤ fuel → Delimited rest →
      value fuel (text ++ rest) = .ok (v, rest)
  | .member m, text => ∀ fuel rest, 2 * text.length ≤ fuel → Delimited rest →
      (∀ left, skipBlanks rest = '\x7d' :: left →
        members (fuel + 1) (text ++ rest) = .ok ([m], left)) ∧
      ∀ more, skipBlanks rest = ',' :: more →
        members (fuel + 1) (text ++ rest)
          = (members fuel (skipBlanks more)).map fun (others, left) => (m :: others, left)
  | .items vs, text => ∀ fuel rest, 2 * text.length < fuel →
      items fuel (text ++ ']' :: rest) = .ok (vs, rest)
  | .members ms, text => ∀ fuel rest, 2 * text.length < fuel →
      members fuel (text ++ '\x7d' :: rest) = .ok (ms, rest)

theorem skipBlanks_before {blanks : Text} (blank : Blanks blanks) {c : Char}
    (solid : isBlank c = false) (behind : Text) :
    skipBlanks (blanks ++ c :: behind) = c :: behind := by
  rw [skipBlanks_blanks blank, skipBlanks_cons solid]

/-- No value is spelled by the empty text, so that a search that is deep enough for one is not of
depth zero. -/
theorem readsBack_of_succ (spelled : Spells (.value v) text)
    (read : ∀ fuel rest, 2 * text.length ≤ fuel + 1 → Delimited rest →
      value (fuel + 1) (text ++ rest) = .ok (v, rest)) : ReadsBack (.value v) text := by
  rintro (_ | fuel) rest deep ended
  · obtain ⟨c, tail, rfl, -⟩ := spelled.head
    simp at deep
  · exact read fuel rest deep ended

theorem value_string {s : Text} (spelled : SpellsString s text) :
    value (fuel + 1) (text ++ rest) = .ok (.str s, rest) := by
  obtain ⟨inner, rfl, read⟩ := string_of_spelled spelled
  simp [value, read, Except.map]

theorem value_emptyArray {blanks : Text} (blank : Blanks blanks) :
    value (fuel + 1) ('[' :: (blanks ++ [']']) ++ rest) = .ok (.arr [], rest) := by
  simp [value, skipBlanks_before blank (c := ']') (by decide)]

theorem value_emptyObject {blanks : Text} (blank : Blanks blanks) :
    value (fuel + 1) ('\x7b' :: (blanks ++ ['\x7d']) ++ rest) = .ok (.obj [], rest) := by
  simp [value, skipBlanks_before blank (c := '\x7d') (by decide)]

/-- An array is read by reading its items, none of which begins with the closing bracket. -/
theorem value_array {blanks : Text} {vs : List Json} (blank : Blanks blanks)
    (spelled : Spells (.items vs) text)
    (read : items fuel (text ++ ']' :: rest) = .ok (vs, rest)) :
    value (fuel + 1) ('[' :: (blanks ++ (text ++ [']'])) ++ rest) = .ok (.arr vs, rest) := by
  simp only [List.cons_append, List.append_assoc, List.nil_append, value, spelled.skip blank]
  split
  · rename_i left same
    exact absurd same (spelled.ne_cons (by decide) _ _)
  · rw [read]
    rfl

/-- An object is read by reading its members, none of which begins with the closing brace. -/
theorem value_object {blanks : Text} {ms : List (Text × Json)} (blank : Blanks blanks)
    (spelled : Spells (.members ms) text)
    (read : members fuel (text ++ '\x7d' :: rest) = .ok (ms, rest)) :
    value (fuel + 1) ('\x7b' :: (blanks ++ (text ++ ['\x7d'])) ++ rest)
      = .ok (object ms, rest) := by
  simp only [List.cons_append, List.append_assoc, List.nil_append, value, spelled.skip blank]
  split
  · rename_i left same
    exact absurd same (spelled.ne_cons (by decide) _ _)
  · rw [read]
    rfl

theorem items_last {blanks : Text} (blank : Blanks blanks) (read : ReadsBack (.value v) text)
    (deep : 2 * text.length ≤ fuel) :
    items (fuel + 1) (text ++ blanks ++ ']' :: rest) = .ok ([v], rest) := by
  have ended : Delimited (blanks ++ ']' :: rest) := .blanks blank (.cons (by decide) _)
  have readValue := read fuel _ deep ended
  simp only [List.append_assoc, items, readValue, skipBlanks_before blank (c := ']') (by decide)]

theorem items_cons {before after others behind : Text} {vs : List Json} (first : Blanks before)
    (second : Blanks after) (more : Spells (.items vs) others) (read : ReadsBack (.value v) text)
    (deep : 2 * text.length ≤ fuel)
    (readMore : items fuel (others ++ behind) = .ok (vs, rest)) :
    items (fuel + 1) (text ++ (before ++ ',' :: (after ++ others)) ++ behind)
      = .ok (v :: vs, rest) := by
  have ended : Delimited (before ++ ',' :: (after ++ (others ++ behind))) :=
    .blanks first (.cons (by decide) _)
  have readValue := read fuel _ deep ended
  simp only [List.append_assoc, List.cons_append, items, readValue,
    skipBlanks_before first (c := ',') (by decide), more.skip second, readMore]
  rfl

/-- A member is read up to the brace or the comma that is met behind it. -/
theorem readsBack_named {name spelling before after : Text} (named : SpellsString name spelling)
    (first : Blanks before) (second : Blanks after) (spelled : Spells (.value v) text)
    (read : ReadsBack (.value v) text) :
    ReadsBack (.member (name, v)) (spelling ++ (before ++ ':' :: (after ++ text))) := by
  obtain ⟨inner, rfl, readName⟩ := string_of_spelled named
  intro fuel rest deep ended
  have readValue := read fuel rest (by simp at deep; omega) ended
  have colon := skipBlanks_before first (c := ':') (by decide) (after ++ (text ++ rest))
  constructor
  · intro left closed
    simp only [List.append_assoc, List.cons_append, members, readName, colon,
      spelled.skip second, readValue, closed]
  · intro more comma
    simp only [List.append_assoc, List.cons_append, members, readName, colon,
      spelled.skip second, readValue, comma]

theorem members_last {m : Text × Json} {blanks : Text} (blank : Blanks blanks)
    (read : ReadsBack (.member m) text) (deep : 2 * text.length ≤ fuel) :
    members (fuel + 1) (text ++ blanks ++ '\x7d' :: rest) = .ok ([m], rest) := by
  have ended : Delimited (blanks ++ '\x7d' :: rest) := .blanks blank (.cons (by decide) _)
  rw [List.append_assoc]
  exact (read fuel _ deep ended).1 rest (skipBlanks_before blank (by decide) rest)

theorem members_cons {m : Text × Json} {before after others behind : Text}
    {ms : List (Text × Json)} (first : Blanks before) (second : Blanks after)
    (more : Spells (.members ms) others) (read : ReadsBack (.member m) text)
    (deep : 2 * text.length ≤ fuel)
    (readMore : members fuel (others ++ behind) = .ok (ms, rest)) :
    members (fuel + 1) (text ++ (before ++ ',' :: (after ++ others)) ++ behind)
      = .ok (m :: ms, rest) := by
  have ended : Delimited (before ++ ',' :: (after ++ (others ++ behind))) :=
    .blanks first (.cons (by decide) _)
  have readMember := (read fuel _ deep ended).2 _ (skipBlanks_before first (by decide) _)
  simp only [List.append_assoc, List.cons_append, readMember, more.skip second, readMore]
  rfl

/-- What is spelled is read back. -/
theorem Spells.readsBack {part : Part} (spelled : Spells part text) : ReadsBack part text := by
  -- a search goes one level deeper for what is inside, and what is inside is shorter
  induction spelled with
  | word listed => exact readsBack_of_succ (.word listed) fun _ _ _ _ => value_word listed
  | number formed denotes =>
    refine readsBack_of_succ (.number formed denotes) fun fuel rest _ ended => ?_
    rw [value_numeral formed]
    exact number_text formed denotes ended
  | string spelled => exact readsBack_of_succ (.string spelled) fun _ _ _ _ => value_string spelled
  | emptyArray blank =>
    exact readsBack_of_succ (.emptyArray blank) fun _ _ _ _ => value_emptyArray blank
  | array blank spelled ih =>
    refine readsBack_of_succ (.array blank spelled) fun fuel rest deep _ => ?_
    exact value_array blank spelled (ih fuel rest (by simp at deep; omega))
  | emptyObject blank =>
    exact readsBack_of_succ (.emptyObject blank) fun _ _ _ _ => value_emptyObject blank
  | object blank spelled ih =>
    refine readsBack_of_succ (.object blank spelled) fun fuel rest deep _ => ?_
    exact value_object blank spelled (ih fuel rest (by simp at deep; omega))
  | lastItem spelled blank ih =>
    rintro (_ | fuel) rest deep
    · simp at deep
    · exact items_last blank ih (by simp at deep; omega)
  | item spelled first second more ih ihMore =>
    rintro (_ | fuel) rest deep
    · simp at deep
    · exact items_cons first second more ih (by simp at deep; omega)
        (ihMore fuel rest (by simp at deep; omega))
  | named named first second spelled ih => exact readsBack_named named first second spelled ih
  | lastMember spelled blank ih =>
    rintro (_ | fuel) rest deep
    · simp at deep
    · exact members_last blank ih (by simp at deep; omega)
  | member spelled first second more ih ihMore =>
    rintro (_ | fuel) rest deep
    · simp at deep
    · exact members_cons first second more ih (by simp at deep; omega)
        (ihMore fuel rest (by simp at deep; omega))

/-! ### What was read -/

/-- What a search of a depth accepts is spelled. -/
structure Sound (fuel : Nat) : Prop where
  value : ∀ s v left, value fuel s = .ok (v, left) →
    ∃ text, s = text ++ left ∧ Spells (.value v) text
  items : ∀ s vs left, items fuel s = .ok (vs, left) →
    ∃ text, s = text ++ ']' :: left ∧ Spells (.items vs) text
  members : ∀ s ms left, members fuel s = .ok (ms, left) →
    ∃ text, s = text ++ '\x7d' :: left ∧ Spells (.members ms) text

theorem value_spelled (sound : Sound fuel) {s : Text}
    (read : value (fuel + 1) s = .ok (v, left)) :
    ∃ text, s = text ++ left ∧ Spells (.value v) text := by
  rw [value.eq_def] at read
  simp only at read
  split at read
  · obtain ⟨s, begun, rfl⟩ := map_read_eq_ok.mp read
    obtain ⟨text, same, spelled⟩ := spelled_of_string begun
    exact ⟨text, same, .string spelled⟩
  · rename_i tail
    obtain ⟨blanks, blank, cut⟩ := exists_blanks tail
    split at read
    · rename_i rest closed
      cases read
      exact ⟨_, by rw [cut, closed]; simp, .emptyObject blank⟩
    · obtain ⟨ms, begun, rfl⟩ := map_read_eq_ok.mp read
      obtain ⟨text, same, spelled⟩ := sound.members _ _ _ begun
      exact ⟨_, by rw [cut, same]; simp, .object blank spelled⟩
  · rename_i tail
    obtain ⟨blanks, blank, cut⟩ := exists_blanks tail
    split at read
    · rename_i rest closed
      cases read
      exact ⟨_, by rw [cut, closed]; simp, .emptyArray blank⟩
    · obtain ⟨vs, begun, rfl⟩ := map_read_eq_ok.mp read
      obtain ⟨text, same, spelled⟩ := sound.items _ _ _ begun
      exact ⟨_, by rw [cut, same]; simp, .array blank spelled⟩
  case h_10 =>
    obtain ⟨n, formed, denotes, rfl⟩ := number_spelled read
    exact ⟨_, rfl, .number formed denotes⟩
  all_goals cases read
  · exact ⟨['n', 'u', 'l', 'l'], rfl, .word (by simp [words])⟩
  · exact ⟨['t', 'r', 'u', 'e'], rfl, .word (by simp [words])⟩
  · exact ⟨['f', 'a', 'l', 's', 'e'], rfl, .word (by simp [words])⟩
  · exact ⟨['N', 'a', 'N'], rfl, .word (by simp [words])⟩
  · exact ⟨['I', 'n', 'f', 'i', 'n', 'i', 't', 'y'], rfl, .word (by simp [words])⟩
  · exact ⟨['-', 'I', 'n', 'f', 'i', 'n', 'i', 't', 'y'], rfl, .word (by simp [words])⟩

theorem items_spelled (sound : Sound fuel) {s : Text} {vs : List Json}
    (read : items (fuel + 1) s = .ok (vs, left)) :
    ∃ text, s = text ++ ']' :: left ∧ Spells (.items vs) text := by
  rw [items.eq_def] at read
  simp only at read
  split at read
  · cases read
  · rename_i v afterItem readItem
    obtain ⟨text, rfl, spelled⟩ := sound.value _ _ _ readItem
    obtain ⟨before, first, cut⟩ := exists_blanks afterItem
    split at read
    · rename_i closed
      cases read
      exact ⟨_, by rw [cut, closed]; simp, .lastItem spelled first⟩
    · rename_i rest comma
      obtain ⟨others, begun, rfl⟩ := map_read_eq_ok.mp read
      obtain ⟨after, second, cutMore⟩ := exists_blanks rest
      obtain ⟨more, same, spelledMore⟩ := sound.items _ _ _ begun
      exact ⟨_, by rw [cut, comma, cutMore, same]; simp, .item spelled first second spelledMore⟩
    · cases read

theorem members_spelled (sound : Sound fuel) {s : Text} {ms : List (Text × Json)}
    (read : members (fuel + 1) s = .ok (ms, left)) :
    ∃ text, s = text ++ '\x7d' :: left ∧ Spells (.members ms) text := by
  rw [members.eq_def] at read
  simp only at read
  split at read
  case h_2 => cases read
  split at read
  · cases read
  · rename_i name afterName readName
    obtain ⟨spelling, spelledName, named⟩ := spelled_of_string readName
    obtain ⟨before, first, cutName⟩ := exists_blanks afterName
    split at read
    case h_2 => cases read
    rename_i afterColon colon
    obtain ⟨after, second, cutColon⟩ := exists_blanks afterColon
    split at read
    · cases read
    · rename_i v afterItem readItem
      obtain ⟨text, same, spelled⟩ := sound.value _ _ _ readItem
      obtain ⟨blanks, third, cut⟩ := exists_blanks afterItem
      have member := Spells.named named first second spelled
      split at read
      · rename_i closed
        cases read
        refine ⟨_, ?_, .lastMember member third⟩
        rw [spelledName, cutName, colon, cutColon, same, cut, closed]
        simp
      · rename_i rest comma
        obtain ⟨others, begun, rfl⟩ := map_read_eq_ok.mp read
        obtain ⟨blanks', fourth, cutMore⟩ := exists_blanks rest
        obtain ⟨more, sameMore, spelledMore⟩ := sound.members _ _ _ begun
        refine ⟨_, ?_, .member member third fourth spelledMore⟩
        rw [spelledName, cutName, colon, cutColon, same, cut, comma, cutMore, sameMore]
        simp
      · cases read

theorem sound (fuel : Nat) : Sound fuel := by
  induction fuel with
  | zero => constructor <;> intro s v left read <;> cases read
  | succ fuel ih =>
    exact ⟨fun _ _ _ => value_spelled ih, fun _ _ _ => items_spelled ih,
      fun _ _ _ => members_spelled ih⟩

/-! ### Documents -/

theorem parse_eq_ok {s : Text} : parse s = .ok v ↔ document s = .ok v := by
  unfold parse
  split <;> simp [*]

/-- What is read as a document spells its value between blanks. -/
theorem spelled_of_document {s : Text} (read : document s = .ok v) :
    ∃ before text after, s = before ++ (text ++ after) ∧ Blanks before ∧ Blanks after ∧
      Spells (.value v) text := by
  unfold document at read
  split at read
  · cases read
  · split at read
    · cases read
    · rename_i v' afterValue readValue
      obtain ⟨text, same, spelled⟩ := (sound _).value _ _ _ readValue
      obtain ⟨before, first, cut⟩ := exists_blanks s
      obtain ⟨after, second, cutAfter⟩ := exists_blanks afterValue
      split at read
      · rename_i ended
        cases read
        rw [ended, List.append_nil] at cutAfter
        exact ⟨before, text, after, by rw [cut, same, ← cutAfter], first, second, spelled⟩
      · cases read

/-- What spells a value between blanks is read as a document of it. -/
theorem document_of_spelled {before text after : Text} (first : Blanks before)
    (second : Blanks after) (spelled : Spells (.value v) text) :
    document (before ++ (text ++ after)) = .ok v := by
  have ended : Delimited after := by
    simpa using Delimited.blanks second .nil
  have read := spelled.readsBack (2 * (before ++ (text ++ after)).length + 2) after
    (by simp; omega) ended
  have blank : skipBlanks after = [] := by
    simpa [skipBlanks] using skipBlanks_blanks second []
  unfold document
  split
  · rename_i tail same
    -- a byte order mark is no blank and opens no value
    cases before with
    | nil => exact absurd same (spelled.ne_cons (by decide) _ _)
    | cons c others =>
      obtain ⟨rfl, -⟩ := List.cons.inj same
      exact absurd (first _ (List.mem_cons_self ..)) (by decide)
  · simp only [spelled.skip first, read, blank]

/-- A text is a document of a value if and only if it spells the value between blanks. -/
theorem parse_eq_ok_iff {s : Text} :
    parse s = .ok v ↔ ∃ before text after, s = before ++ (text ++ after) ∧ Blanks before ∧
      Blanks after ∧ Spells (.value v) text := by
  rw [parse_eq_ok]
  constructor
  · exact spelled_of_document
  · rintro ⟨before, text, after, rfl, first, second, spelled⟩
    exact document_of_spelled first second spelled

end ImportResolution.Json
