import ImportResolution.Proofs.Relaxed.Tokens

/-! Strict documents in the relaxed notation. A document of the strict notation is one of the
relaxed notation, and has the same value there as long as it writes no character as an escaped
surrogate pair. -/
namespace ImportResolution.Relaxed

open Rule

variable {s text rest : Text}

/-! ### Parts between brackets -/

variable {α : Type} {part : Rule α} {a : α} {all : List α} {before after others closing : Text}

/-- A part behind a comma. -/
def following (part : Rule α) : Rule α := do
  blanks
  let _ ← char ','
  blanks
  part

/-- A text consists of parts with commas between them, up to the brackets that close it. -/
def Listed (part : Rule α) (text : Text) (all : List α) (closing : Text) : Prop :=
  ∃ first others mid blanks, all = first :: others ∧ Finds part (text ++ closing) first mid ∧
    mid.length ≤ (text ++ closing).length ∧ Repeats (following part) mid others (blanks ++ closing) ∧
    Json.Blanks blanks

/-- What follows a list of parts is solid, and no comma. -/
structure Closes (closing : Text) : Prop where
  solid : Solid closing
  other : ∀ x ∈ closing.head?, x ≠ ','

theorem listed_last (here : Finds part (text ++ (after ++ closing)) a (after ++ closing))
    (blank : Json.Blanks after) (closes : Closes closing) :
    Listed part (text ++ after) [a] closing := by
  refine ⟨a, [], after ++ closing, after, rfl, by simpa using here, by simp, .done ?_, blank⟩
  exact misses_bind_next (finds_blanks blank closes.solid)
    (misses_bind (misses_char closes.other))

theorem listed_item
    (here : Finds part (text ++ (before ++ ',' :: (after ++ (others ++ closing)))) a
      (before ++ ',' :: (after ++ (others ++ closing))))
    (first : Json.Blanks before) (second : Json.Blanks after) (solid : Solid (others ++ closing))
    (more : Listed part others all closing) :
    Listed part (text ++ (before ++ ',' :: (after ++ others))) (a :: all) closing := by
  obtain ⟨next, rest, mid, blanks, rfl, found, shorter, repeats, blank⟩ := more
  have comma : Finds (following part) (before ++ ',' :: (after ++ (others ++ closing))) next mid :=
    finds_bind (finds_blanks first (solid_cons (by decide) _)) <| finds_bind (finds_char ',' _) <|
      finds_bind (finds_blanks second solid) found
  refine ⟨a, next :: rest, _, blanks, rfl, by simpa using here, by simp, ?_, blank⟩
  exact .more comma (by simp at shorter ⊢; omega) repeats

theorem finds_separated (listed : Listed part text all closing) (closes : Closes closing) :
    Finds (separated part) (text ++ closing) all closing := by
  obtain ⟨first, others, mid, blanks, rfl, found, -, repeats, blank⟩ := listed
  exact finds_bind found <| finds_bind (finds_many repeats) <|
    finds_bind (finds_blanks blank closes.solid) <|
    finds_bind (finds_optional_none (misses_char closes.other)) (finds_pure _ closing)

theorem finds_bracketed {opening bracket : Char} (blank : Json.Blanks before)
    (solid : Solid (text ++ bracket :: rest)) (closes : Closes (bracket :: rest))
    (listed : Listed part text all (bracket :: rest)) :
    Finds (bracketed opening bracket part) (opening :: (before ++ (text ++ bracket :: rest))) all
      rest :=
  finds_first <| finds_bind (finds_char opening _) <| finds_bind (finds_blanks blank solid) <|
    finds_bind (finds_separated listed closes) <|
    finds_bind (finds_blanks Json.blanks_nil closes.solid) <|
    finds_bind (finds_char bracket rest) (finds_pure all rest)

theorem finds_bracketed_nothing {opening bracket : Char} (blank : Json.Blanks before)
    (closes : Closes (bracket :: rest)) (missed : Misses part (bracket :: rest)) :
    Finds (bracketed opening bracket part) (opening :: (before ++ bracket :: rest)) [] rest :=
  finds_second
    (misses_bind_next (finds_char opening _) <|
      misses_bind_next (finds_blanks blank closes.solid) (misses_bind (misses_bind missed))) <|
    finds_bind (finds_char opening _) <| finds_bind (finds_blanks blank closes.solid) <|
    finds_bind (finds_char bracket rest) (finds_pure [] rest)

theorem misses_bracketed {opening bracket : Char} (other : ∀ x ∈ s.head?, x ≠ opening) :
    Misses (bracketed opening bracket part) s :=
  misses_orElse (misses_bind (misses_char other)) (misses_bind (misses_char other))

/-! ### Values -/

variable {depth : Nat} {d : Document}

theorem misses_string (other : ∀ x ∈ s.head?, x ≠ '\'' ∧ x ≠ '"') : Misses string s :=
  misses_orElse (misses_bind (misses_char fun x head => (other x head).1))
    (misses_bind (misses_char fun x head => (other x head).2))

/-- The alternatives for a value that is no word of letters. -/
def composed (depth : Nat) : Rule Document :=
  (Document.object <$> bracketed '\x7b' '\x7d' (member (value depth)))
  <|> (Document.array <$> bracketed '[' ']' (value depth))
  <|> (Document.string <$> string)
  <|> (Document.numeral <$> numeral)

theorem value_succ (depth : Nat) : value (depth + 1) =
    ((do literal ['n', 'u', 'l', 'l']; return .null)
    <|> (do literal ['t', 'r', 'u', 'e']; return .bool true)
    <|> (do literal ['f', 'a', 'l', 's', 'e']; return .bool false)
    <|> composed depth) := rfl

theorem finds_composed (other : ∀ x ∈ s.head?, x ≠ 'n' ∧ x ≠ 't' ∧ x ≠ 'f')
    (here : Finds (composed depth) s d rest) : Finds (value (depth + 1)) s d rest := by
  rw [value_succ]
  exact finds_second (misses_bind (misses_literal _ fun x head => (other x head).1)) <|
    finds_second (misses_bind (misses_literal _ fun x head => (other x head).2.1)) <|
    finds_second (misses_bind (misses_literal _ fun x head => (other x head).2.2)) here

theorem finds_number {n : Numeral}
    (other : ∀ x ∈ s.head?, x ∉ ['n', 't', 'f', '\x7b', '[', '\'', '"'])
    (here : Finds numeral s n rest) : Finds (value (depth + 1)) s (.numeral n) rest := by
  have others : ∀ x ∈ s.head?, x ≠ 'n' ∧ x ≠ 't' ∧ x ≠ 'f' ∧ x ≠ '\x7b' ∧ x ≠ '[' ∧ x ≠ '\'' ∧
      x ≠ '"' := fun x head => by simpa using other x head
  refine finds_composed (fun x head => ?_) <|
    finds_second (misses_map _ (misses_bracketed fun x head => (others x head).2.2.2.1)) <|
    finds_second (misses_map _ (misses_bracketed fun x head => (others x head).2.2.2.2.1)) <|
    finds_second (misses_map _ (misses_string fun x head => (others x head).2.2.2.2.2)) <|
    finds_map _ here
  exact ⟨(others x head).1, (others x head).2.1, (others x head).2.2.1⟩

theorem finds_array {ds : List Document}
    (here : Finds (bracketed '[' ']' (value depth)) ('[' :: text) ds rest) :
    Finds (composed depth) ('[' :: text) (.array ds) rest :=
  finds_second (misses_map _ (misses_bracketed (by simp))) (finds_first (finds_map _ here))

theorem misses_decimal (other : ∀ x ∈ s.head?, x.isDigit = false ∧ x ≠ '.') : Misses decimal s := by
  have zero : ∀ x ∈ s.head?, x ≠ '0' := by
    rintro x head rfl
    simp at other
    exact absurd (other _ head).1 (by decide)
  exact misses_orElse
    (misses_bind (misses_orElse (misses_bind (misses_char zero))
      (misses_bind (misses_satisfy fun x head => by simp [(other x head).1]))))
    (misses_bind (misses_bind (misses_char fun x head => (other x head).2)))

/-- Only a letter can still begin a number that is neither a decimal nor has a sign. -/
theorem misses_figures (other : ∀ x ∈ s.head?, x.isDigit = false ∧ x ≠ '.') :
    Misses (do
      let read ← decimal
      not nameStart
      return read) s ∧
    Misses (do
      literal ['0', 'x'] <|> literal ['0', 'X']
      let digits ← many1 hexDigit
      return Magnitude.hexadecimal digits) s := by
  have zero : ∀ x ∈ s.head?, x ≠ '0' := by
    rintro x head rfl
    exact absurd (other _ head).1 (by decide)
  exact ⟨misses_bind (misses_decimal other),
    misses_bind (misses_orElse (misses_literal _ zero) (misses_literal _ zero))⟩

theorem finds_infinity (rest : Text) :
    Finds magnitude ("Infinity".toList ++ rest) .infinity rest := by
  obtain ⟨decimal, hexadecimal⟩ := @misses_figures ("Infinity".toList ++ rest)
    (by rintro x ⟨⟩; decide)
  exact finds_second decimal <| finds_second hexadecimal <| finds_first <|
    finds_bind (finds_literal _ rest) (finds_pure _ rest)

theorem finds_nan (rest : Text) : Finds magnitude ("NaN".toList ++ rest) .nan rest := by
  obtain ⟨decimal, hexadecimal⟩ := @misses_figures ("NaN".toList ++ rest)
    (by rintro x ⟨⟩; decide)
  have other : Misses (literal "Infinity".toList) ("NaN".toList ++ rest) :=
    misses_literal _ (by rintro x ⟨⟩; decide)
  exact finds_second decimal <| finds_second hexadecimal <| finds_second (misses_bind other) <|
    finds_bind (finds_literal _ rest) (finds_pure _ rest)

theorem finds_unsigned {m : Magnitude} (other : ∀ x ∈ s.head?, x ≠ '-' ∧ x ≠ '+')
    (here : Finds magnitude s m rest) : Finds numeral s ⟨false, m⟩ rest :=
  finds_second (misses_bind (misses_char fun x head => (other x head).1)) <|
    finds_second (misses_bind (misses_char fun x head => (other x head).2)) <|
    finds_bind here (finds_pure _ rest)

/-- The words of the strict notation are words here, with the same values. -/
theorem finds_word {v : Json} (listed : (v, text) ∈ Json.words) (depth : Nat) (rest : Text) :
    ∃ d, Finds (value (depth + 1)) (text ++ rest) d rest ∧ d.value = .ok v := by
  simp only [Json.words, List.mem_cons, Prod.mk.injEq, List.not_mem_nil, or_false] at listed
  rcases listed with ⟨rfl, rfl⟩ | ⟨rfl, rfl⟩ | ⟨rfl, rfl⟩ | ⟨rfl, rfl⟩ | ⟨rfl, rfl⟩ | ⟨rfl, rfl⟩
  · refine ⟨.null, ?_, rfl⟩
    rw [value_succ]
    exact finds_first (finds_bind (finds_literal _ rest) (finds_pure _ rest))
  · refine ⟨.bool true, ?_, rfl⟩
    rw [value_succ]
    exact finds_second (misses_bind (misses_literal _ (by simp))) <|
      finds_first (finds_bind (finds_literal _ rest) (finds_pure _ rest))
  · refine ⟨.bool false, ?_, rfl⟩
    rw [value_succ]
    exact finds_second (misses_bind (misses_literal _ (by simp))) <|
      finds_second (misses_bind (misses_literal _ (by simp))) <|
      finds_first (finds_bind (finds_literal _ rest) (finds_pure _ rest))
  · exact ⟨_, finds_number (by simp) (finds_unsigned (by simp) (finds_nan rest)), rfl⟩
  · exact ⟨_, finds_number (by simp) (finds_unsigned (by simp) (finds_infinity rest)), rfl⟩
  · exact ⟨_, finds_number (by simp) (finds_first (finds_bind (finds_char '-' _)
      (finds_bind (finds_infinity rest) (finds_pure _ rest)))), rfl⟩

/-- No value begins with a closing bracket. -/
theorem misses_value (depth : Nat) (rest : Text) : Misses (value depth) (']' :: rest) := by
  cases depth with
  | zero => exact fun offset => rfl
  | succ depth =>
    obtain ⟨decimal, hexadecimal⟩ := @misses_figures (']' :: rest) (by simp)
    have magnitude : Misses magnitude (']' :: rest) :=
      misses_orElse decimal <| misses_orElse hexadecimal <|
        misses_orElse (misses_bind (misses_literal _ (by rintro x ⟨⟩; decide)))
          (misses_bind (misses_literal _ (by rintro x ⟨⟩; decide)))
    have numeral : Misses numeral (']' :: rest) :=
      misses_orElse (misses_bind (misses_char (by simp))) <|
        misses_orElse (misses_bind (misses_char (by simp))) (misses_bind magnitude)
    rw [value_succ]
    exact misses_orElse (misses_bind (misses_literal _ (by simp))) <|
      misses_orElse (misses_bind (misses_literal _ (by simp))) <|
      misses_orElse (misses_bind (misses_literal _ (by simp))) <|
      misses_orElse (misses_map _ (misses_bracketed (by simp))) <|
      misses_orElse (misses_map _ (misses_bracketed (by simp))) <|
      misses_orElse (misses_map _ (misses_string (by simp))) (misses_map _ numeral)

/-- No member begins with a closing brace. -/
theorem misses_member (item : Rule Document) (rest : Text) :
    Misses (member item) ('\x7d' :: rest) := by
  have name : Misses plainName ('\x7d' :: rest) := misses_bind <|
    misses_orElse (misses_satisfy (by simp [isPlainNameStart])) <|
    misses_orElse (misses_ofClass (by rintro x ⟨⟩; decide +kernel))
      (misses_bind (misses_literal _ (by simp)))
  exact misses_orElse (misses_bind (misses_string (by simp))) (misses_bind name)

/-! ### Documents -/

/-- How a part of a strict document is read here, given a search that is deep enough and a text
behind it that ends it: as something of its kind, and without escaped pairs as the same. -/
def ReadsAlike : Json.Part → Text → Prop
  | .value v, text => ∀ depth rest, text.length < depth → Json.Delimited rest →
      ∃ d v', Finds (value depth) (text ++ rest) d rest ∧ d.value = .ok v' ∧
        v'.isContainer = v.isContainer ∧ (Json.PairFree text → v' = v)
  | .member m, text => ∀ depth rest, text.length < depth → Json.Delimited rest →
      ∃ name d v', Finds (member (value depth)) (text ++ rest) (name, d) rest ∧ d.value = .ok v' ∧
        (Json.PairFree text → (name, v') = m)
  | .items vs, text => ∀ depth rest, text.length < depth →
      ∃ ds vs', Listed (value depth) text ds (']' :: rest) ∧ itemValues ds = .ok vs' ∧
        (Json.PairFree text → vs' = vs)
  | .members ms, text => ∀ depth rest, text.length < depth →
      ∃ ds ms', Listed (member (value depth)) text ds ('\x7d' :: rest) ∧ memberValues ds = .ok ms' ∧
        (Json.PairFree text → ms' = ms)

theorem closes_bracket (rest : Text) : Closes (']' :: rest) :=
  ⟨solid_cons (by decide) rest, by simp⟩

theorem closes_brace (rest : Text) : Closes ('\x7d' :: rest) :=
  ⟨solid_cons (by decide) rest, by simp⟩

theorem mem_solids_of_isDigit (digit : c.isDigit = true) : c ∈ solids := by
  have listed : ∀ code ∈ List.range' 48 10, Char.ofNat code ∈ solids := by decide
  have bounds : 48 ≤ c.toNat ∧ c.toNat ≤ 57 := by
    simpa [Char.isDigit, UInt32.le_iff_toNat_le] using digit
  have held := listed c.toNat (List.mem_range'_1.mpr ⟨bounds.1, by omega⟩)
  rwa [Char.ofNat_toNat] at held

/-- A part of a strict document begins with something solid. -/
theorem solid_of_spelled {part : Json.Part} (spelled : Json.Spells part text) (behind : Text) :
    Solid (text ++ behind) := by
  obtain ⟨c, tail, rfl, opening⟩ := spelled.head
  refine solid_cons ?_ (tail ++ behind)
  have opens := Json.Part.opens_imp opening
  simp only [Json.opens, Bool.or_eq_true, List.contains_iff_mem] at opens
  rcases opens with digit | listed
  · exact mem_solids_of_isDigit digit
  · have others : ∀ c ∈ ['"', '[', '\x7b', '-', 'n', 't', 'f', 'N', 'I'], c ∈ solids :=
      forall_listed (by decide)
    exact others c listed

theorem infix_between (opening bracket : Char) (blanks text : Text) :
    text <:+: opening :: (blanks ++ (text ++ [bracket])) :=
  ⟨opening :: blanks, [bracket], by simp⟩

theorem infix_behind (text before : Text) (c : Char) (after others : Text) :
    others <:+: text ++ (before ++ c :: (after ++ others)) :=
  ⟨text ++ (before ++ c :: after), [], by simp⟩

theorem readsAlike_word {v : Json} (listed : (v, text) ∈ Json.words) :
    ReadsAlike (.value v) text := by
  rintro (_ | depth) rest deep ended
  · omega
  · obtain ⟨d, found, denotes⟩ := finds_word listed depth rest
    exact ⟨d, v, found, denotes, rfl, fun _ => rfl⟩

/-- A numeral of the strict notation begins with a sign or a digit, and so like nothing else
here. -/
theorem readsAlike_number {n : Json.Numeral} {v : Json} (formed : n.WellFormed)
    (denotes : n.value? = some v) : ReadsAlike (.value v) n.text := by
  rintro (_ | depth) rest deep ended
  · omega
  · refine ⟨_, v, finds_number ?_ (finds_numeral formed ended), value_ofStrict formed denotes,
      rfl, fun _ => rfl⟩
    obtain ⟨first, others, head, digit⟩ := formed.whole.head
    have none : ∀ x ∈ ['n', 't', 'f', '\x7b', '[', '\'', '"'], x.isDigit = false ∧ x ≠ '-' :=
      forall_listed (by decide)
    intro x start listed
    unfold Json.Numeral.text at start
    split at start
    · cases start
      exact (none _ listed).2 rfl
    · simp only [Json.Numeral.unsigned, head, List.cons_append, List.head?_cons,
        Option.mem_some_iff] at start
      rw [start, (none x listed).1] at digit
      cases digit

theorem readsAlike_string {s : Text} (spelled : Json.SpellsString s text) :
    ReadsAlike (.value (.str s)) text := by
  rintro (_ | depth) rest deep ended
  · omega
  · obtain ⟨read, found, same⟩ := finds_string spelled rest
    obtain ⟨spelled⟩ := spelled
    exact ⟨_, .str read, finds_composed (by simp) <|
      finds_second (misses_map _ (misses_bracketed (by simp))) <|
      finds_second (misses_map _ (misses_bracketed (by simp))) <|
      finds_first (finds_map _ found), rfl, rfl, fun free => by rw [same free]⟩

theorem readsAlike_emptyArray {blanks : Text} (blank : Json.Blanks blanks) :
    ReadsAlike (.value (.arr [])) ('[' :: (blanks ++ [']'])) := by
  rintro (_ | depth) rest deep ended
  · omega
  · have found : Finds (bracketed '[' ']' (value depth)) ('[' :: (blanks ++ ']' :: rest)) []
        rest := finds_bracketed_nothing blank (closes_bracket rest) (misses_value depth rest)
    have whole : '[' :: (blanks ++ [']']) ++ rest = '[' :: (blanks ++ ']' :: rest) := by simp
    rw [whole]
    exact ⟨_, .arr [], finds_composed (by simp) (finds_array found), rfl, rfl, fun _ => rfl⟩

theorem readsAlike_array {blanks : Text} {vs : List Json} (blank : Json.Blanks blanks)
    (spelled : Json.Spells (.items vs) text) (alike : ReadsAlike (.items vs) text) :
    ReadsAlike (.value (.arr vs)) ('[' :: (blanks ++ (text ++ [']']))) := by
  rintro (_ | depth) rest deep ended
  · omega
  · simp only [List.length_cons, List.length_append, List.length_nil] at deep
    obtain ⟨ds, vs', listed, denote, same⟩ := alike depth rest (by omega)
    have found : Finds (bracketed '[' ']' (value depth))
        ('[' :: (blanks ++ (text ++ ']' :: rest))) ds rest :=
      finds_bracketed blank (solid_of_spelled spelled _) (closes_bracket rest) listed
    have whole : '[' :: (blanks ++ (text ++ [']'])) ++ rest
        = '[' :: (blanks ++ (text ++ ']' :: rest)) := by simp
    rw [whole]
    refine ⟨_, .arr vs', finds_composed (by simp) (finds_array found), ?_, rfl, fun free => ?_⟩
    · simp [Document.value, denote, Except.map]
    · rw [same (free.inside (infix_between ..))]

theorem readsAlike_emptyObject {blanks : Text} (blank : Json.Blanks blanks) :
    ReadsAlike (.value (.obj [])) ('\x7b' :: (blanks ++ ['\x7d'])) := by
  rintro (_ | depth) rest deep ended
  · omega
  · have found : Finds (bracketed '\x7b' '\x7d' (member (value depth)))
        ('\x7b' :: (blanks ++ '\x7d' :: rest)) [] rest :=
      finds_bracketed_nothing blank (closes_brace rest) (misses_member _ rest)
    have whole : '\x7b' :: (blanks ++ ['\x7d']) ++ rest
        = '\x7b' :: (blanks ++ '\x7d' :: rest) := by simp
    rw [whole]
    exact ⟨_, .obj [], finds_composed (by simp) (finds_first (finds_map _ found)), rfl, rfl,
      fun _ => rfl⟩

theorem readsAlike_object {blanks : Text} {ms : List (Text × Json)} (blank : Json.Blanks blanks)
    (spelled : Json.Spells (.members ms) text) (alike : ReadsAlike (.members ms) text) :
    ReadsAlike (.value (Json.object ms)) ('\x7b' :: (blanks ++ (text ++ ['\x7d']))) := by
  rintro (_ | depth) rest deep ended
  · omega
  · simp only [List.length_cons, List.length_append, List.length_nil] at deep
    obtain ⟨ds, ms', listed, denote, same⟩ := alike depth rest (by omega)
    have found : Finds (bracketed '\x7b' '\x7d' (member (value depth)))
        ('\x7b' :: (blanks ++ (text ++ '\x7d' :: rest))) ds rest :=
      finds_bracketed blank (solid_of_spelled spelled _) (closes_brace rest) listed
    have whole : '\x7b' :: (blanks ++ (text ++ ['\x7d'])) ++ rest
        = '\x7b' :: (blanks ++ (text ++ '\x7d' :: rest)) := by simp
    rw [whole]
    refine ⟨_, Json.object ms', finds_composed (by simp) (finds_first (finds_map _ found)), ?_,
      rfl, fun free => ?_⟩
    · simp [Document.value, denote, Except.map]
    · rw [same (free.inside (infix_between ..))]

theorem readsAlike_lastItem {v : Json} {blanks : Text} (blank : Json.Blanks blanks)
    (alike : ReadsAlike (.value v) text) : ReadsAlike (.items [v]) (text ++ blanks) := by
  intro depth rest deep
  have ended : Json.Delimited (blanks ++ ']' :: rest) :=
    .blanks blank (.cons (by decide) rest)
  obtain ⟨d, v', found, denotes, -, same⟩ := alike depth _ (by simp at deep; omega) ended
  refine ⟨[d], [v'], listed_last found blank (closes_bracket rest), ?_, fun free => ?_⟩
  · simp [itemValues, denotes, Except.map]
  · rw [same (free.inside (List.prefix_append _ _).isInfix)]

theorem readsAlike_item {v : Json} {vs : List Json} (first : Json.Blanks before)
    (second : Json.Blanks after) (more : Json.Spells (.items vs) others)
    (alike : ReadsAlike (.value v) text) (alikeMore : ReadsAlike (.items vs) others) :
    ReadsAlike (.items (v :: vs)) (text ++ (before ++ ',' :: (after ++ others))) := by
  intro depth rest deep
  simp only [List.length_append, List.length_cons] at deep
  have ended : Json.Delimited (before ++ ',' :: (after ++ (others ++ ']' :: rest))) :=
    .blanks first (.cons (by decide) _)
  obtain ⟨d, v', found, denotes, -, same⟩ := alike depth _ (by omega) ended
  obtain ⟨ds, vs', listed, denote, same'⟩ := alikeMore depth rest (by omega)
  refine ⟨d :: ds, v' :: vs', listed_item found first second (solid_of_spelled more _) listed, ?_,
    fun free => ?_⟩
  · simp [itemValues, denotes, denote, Except.map]
  · rw [same (free.inside (List.prefix_append _ _).isInfix), same' (free.inside (infix_behind ..))]

theorem readsAlike_named {name spelling : Text} {v : Json} (named : Json.SpellsString name spelling)
    (first : Json.Blanks before) (second : Json.Blanks after)
    (spelled : Json.Spells (.value v) text) (alike : ReadsAlike (.value v) text) :
    ReadsAlike (.member (name, v)) (spelling ++ (before ++ ':' :: (after ++ text))) := by
  intro depth rest deep ended
  simp only [List.length_append, List.length_cons] at deep
  obtain ⟨read, string, same⟩ := finds_string named (before ++ ':' :: (after ++ (text ++ rest)))
  obtain ⟨d, v', found, denotes, -, same'⟩ := alike depth rest (by omega) ended
  have whole : spelling ++ (before ++ ':' :: (after ++ text)) ++ rest
      = spelling ++ (before ++ ':' :: (after ++ (text ++ rest))) := by simp
  rw [whole]
  refine ⟨read, d, v', finds_first <| finds_bind string <|
    finds_bind (finds_blanks first (solid_cons (by decide) _)) <|
    finds_bind (finds_char ':' _) <|
    finds_bind (finds_blanks second (solid_of_spelled spelled rest)) <|
    finds_bind found (finds_pure _ rest), denotes, fun free => ?_⟩
  rw [same (free.inside (List.prefix_append _ _).isInfix), same' (free.inside (infix_behind ..))]

theorem readsAlike_lastMember {m : Text × Json} {blanks : Text} (blank : Json.Blanks blanks)
    (alike : ReadsAlike (.member m) text) : ReadsAlike (.members [m]) (text ++ blanks) := by
  intro depth rest deep
  have ended : Json.Delimited (blanks ++ '\x7d' :: rest) :=
    .blanks blank (.cons (by decide) rest)
  obtain ⟨name, d, v', found, denotes, same⟩ := alike depth _ (by simp at deep; omega) ended
  refine ⟨[(name, d)], [(name, v')], listed_last found blank (closes_brace rest), ?_,
    fun free => ?_⟩
  · simp [memberValues, denotes, Except.map]
  · rw [same (free.inside (List.prefix_append _ _).isInfix)]

theorem readsAlike_member {m : Text × Json} {ms : List (Text × Json)} (first : Json.Blanks before)
    (second : Json.Blanks after) (more : Json.Spells (.members ms) others)
    (alike : ReadsAlike (.member m) text) (alikeMore : ReadsAlike (.members ms) others) :
    ReadsAlike (.members (m :: ms)) (text ++ (before ++ ',' :: (after ++ others))) := by
  intro depth rest deep
  simp only [List.length_append, List.length_cons] at deep
  have ended : Json.Delimited (before ++ ',' :: (after ++ (others ++ '\x7d' :: rest))) :=
    .blanks first (.cons (by decide) _)
  obtain ⟨name, d, v', found, denotes, same⟩ := alike depth _ (by omega) ended
  obtain ⟨ds, ms', listed, denote, same'⟩ := alikeMore depth rest (by omega)
  refine ⟨(name, d) :: ds, (name, v') :: ms',
    listed_item found first second (solid_of_spelled more _) listed, ?_, fun free => ?_⟩
  · simp [memberValues, denotes, denote, Except.map]
  · rw [same (free.inside (List.prefix_append _ _).isInfix), same' (free.inside (infix_behind ..))]

/-- Every part of a strict document is read alike here. -/
theorem readsAlike {part : Json.Part} (spelled : Json.Spells part text) : ReadsAlike part text := by
  induction spelled with
  | word listed => exact readsAlike_word listed
  | number formed denotes => exact readsAlike_number formed denotes
  | string spelled => exact readsAlike_string spelled
  | emptyArray blank => exact readsAlike_emptyArray blank
  | array blank spelled ih => exact readsAlike_array blank spelled ih
  | emptyObject blank => exact readsAlike_emptyObject blank
  | object blank spelled ih => exact readsAlike_object blank spelled ih
  | lastItem spelled blank ih => exact readsAlike_lastItem blank ih
  | item spelled first second more ih ihMore => exact readsAlike_item first second more ih ihMore
  | named named first second spelled ih => exact readsAlike_named named first second spelled ih
  | lastMember spelled blank ih => exact readsAlike_lastMember blank ih
  | member spelled first second more ih ihMore =>
    exact readsAlike_member first second more ih ihMore

/-- A document of the strict notation is a document of the relaxed notation, a container if it is
one, and has the same value there if no character is written as an escaped surrogate pair. -/
theorem parse_of_strict {v : Json} (accepted : Json.parse s = .ok v) :
    ∃ v', parse s = .ok v' ∧ v'.isContainer = v.isContainer ∧ (Json.PairFree s → v' = v) := by
  obtain ⟨before, text, after, rfl, first, second, spelled⟩ := Json.parse_eq_ok_iff.mp accepted
  have inside : text <:+: before ++ (text ++ after) := ⟨before, after, by simp⟩
  have ended : Json.Delimited after := by simpa using Json.Delimited.blanks second .nil
  obtain ⟨d, v', found, denotes, kind, same⟩ := readsAlike spelled
    ((before ++ (text ++ after)).length + 1) after (by simp; omega) ended
  have trailing : Finds blanks (after ++ []) () [] := finds_blanks second (by rintro x ⟨⟩)
  rw [List.append_nil] at trailing
  have whole : Finds document (before ++ (text ++ after)) d [] := by
    intro offset
    exact finds_bind (finds_blanks first (solid_of_spelled spelled after)) (finds_bind found
      (finds_bind trailing (finds_bind finds_atEnd (finds_pure d [])))) offset
  obtain ⟨c, tail, head, -⟩ := spelled.head
  have nonempty : (before ++ (text ++ after)).isEmpty = false := by simp [head]
  obtain ⟨end', reply⟩ := whole 0
  refine ⟨v', ?_, kind, fun free => same (free.inside inside)⟩
  simp only [parse, nonempty, Bool.false_eq_true, if_false, reply, denotes]
  rfl

end ImportResolution.Relaxed
