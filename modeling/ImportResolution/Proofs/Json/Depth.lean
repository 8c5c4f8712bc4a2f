import ImportResolution.Proofs.Json.Nesting
import ImportResolution.Proofs.Json.RoundTrip

/-! The depth of a value, which is how many containers stand inside one another in it. A text from
which a value is read takes room for as many containers at least, so no value is deeper than there
was room to read it. What is written for a value takes no more than that, in whatever layout. -/
namespace ImportResolution.Json

mutual

/-- How many containers stand inside one another in a value. -/
def depth : Json → Nat
  | arr items => itemsDepth items + 1
  | obj members => membersDepth members + 1
  | _ => 0

/-- The greatest depth among array items. -/
def itemsDepth : List Json → Nat
  | [] => 0
  | item :: rest => max (depth item) (itemsDepth rest)

/-- The greatest depth among the values of object members. -/
def membersDepth : List (Text × Json) → Nat
  | [] => 0
  | (_, value) :: rest => max (depth value) (membersDepth rest)

end

/-- A text closes what it opens, outside strings, and goes through if and only if there is room for
so many containers. -/
def Needs (s : Text) (containers : Nat) : Prop :=
  ∀ room rest, tooDeep? .outside room (s ++ rest) = none ↔
    containers ≤ room ∧ tooDeep? .outside room rest = none

variable {s t text : Text} {n m room : Nat} {layout : Layout}

theorem needs_nil : Needs [] 0 := by simp [Needs]

theorem needs_append (first : Needs s n) (second : Needs t m) : Needs (s ++ t) (max n m) := by
  intro room rest
  rw [List.append_assoc, first, second, Nat.max_le, and_assoc]

/-! ### Texts that take no room -/

/-- The characters that have to do with strings or containers. -/
def marks : List Char := ['"', '[', ']', '\x7b', '\x7d']

theorem needs_unmarked (unmarked : ∀ c ∈ s, c ∉ marks) : Needs s 0 := by
  induction s with
  | nil => exact needs_nil
  | cons c s ih =>
    obtain ⟨first, others⟩ := List.forall_mem_cons.mp unmarked
    simp only [marks, List.mem_cons, List.not_mem_nil, or_false, not_or] at first
    obtain ⟨quote, bracket, bracket', brace, brace'⟩ := first
    have opens : Container.opened? c = none := by
      unfold Container.opened?
      split
      · exact absurd rfl bracket
      · exact absurd rfl brace
      · rfl
    intro room rest
    rw [← ih others room rest]
    simp [tooDeep?, quote, bracket', brace', opens]

/-- Texts of one kind of characters, of which no mark is one. -/
theorem needs_of_kind {kind : Char → Bool} (others : ∀ c ∈ marks, kind c = false)
    (all : ∀ c ∈ s, kind c = true) : Needs s 0 := by
  refine needs_unmarked fun c member mark => ?_
  have same := (all c member).symm.trans (others c mark)
  cases same

theorem needs_digits (digits : Digits s) : Needs s 0 :=
  needs_of_kind (forall_listed (by decide)) digits

theorem needs_blanks (blanks : Blanks s) : Needs s 0 :=
  needs_of_kind (forall_listed (by decide)) blanks

theorem needs_singleton {c : Char} (unmarked : c ∉ marks) : Needs [c] 0 :=
  needs_unmarked (by simpa using unmarked)

/-- A text behind a character that is no mark. -/
theorem needs_cons {c : Char} (unmarked : c ∉ marks) (behind : Needs s n) : Needs (c :: s) n := by
  simpa using needs_append (needs_singleton unmarked) behind

theorem needs_numeral {numeral : Numeral} (formed : numeral.WellFormed) : Needs numeral.text 0 := by
  have whole : Digits numeral.whole := by
    have whole := formed.whole
    generalize numeral.whole = digits at whole ⊢
    cases whole with
    | zero => simp [Digits]
    | digits digit _ all => exact List.forall_mem_cons.mpr ⟨digit, all⟩
  have fraction : Needs (Numeral.fractionText numeral.fraction?) 0 := by
    cases held : numeral.fraction? with
    | none => exact needs_nil
    | some digits =>
      exact needs_cons (by decide) (needs_digits (formed.fraction digits held).2)
  have exponent : Needs (Numeral.exponentText numeral.exponent?) 0 := by
    cases held : numeral.exponent? with
    | none => exact needs_nil
    | some e =>
      obtain ⟨mark, sign, -, digits⟩ := formed.exponent e held
      have signed : Needs e.size 0 := by
        unfold Exponent.size
        rcases sign with none | minus | plus
        · simpa [none] using needs_digits digits
        · simpa [minus] using needs_cons (by decide) (needs_digits digits)
        · simpa [plus] using needs_cons (by decide) (needs_digits digits)
      refine needs_cons ?_ signed
      rcases mark with lower | upper
      · rw [lower]
        decide
      · rw [upper]
        decide
  have unsigned : Needs numeral.unsigned 0 :=
    needs_append (needs_digits whole) (needs_append fraction exponent)
  unfold Numeral.text
  split
  · exact needs_cons (by decide) unsigned
  · exact unsigned

theorem needs_word {v : Json} (listed : (v, text) ∈ words) : Needs text 0 := by
  have unmarked : (words.all fun word => word.2.all fun c => !marks.contains c) = true := by decide
  have all := List.all_eq_true.mp unmarked _ listed
  exact needs_of_kind (by simp) (List.all_eq_true.mp all)

/-! ### Strings -/

theorem ne_of_hexValue {c : Char} {d : Nat} (digit : Text.hexValue? c = some d) :
    c ≠ '"' ∧ c ≠ '\\' := by
  constructor <;> rintro rfl <;> cases digit

/-- What stands between quotation marks is passed over, whatever it is. -/
theorem tooDeep?_codes {codes : List Nat} (spelled : SpellsCodes codes text) (rest : Text) :
    tooDeep? .string room (text ++ '"' :: rest) = tooDeep? .outside room rest := by
  induction spelled with
  | nil => simp [tooDeep?]
  | plain quote backslash _ _ ih => simpa [tooDeep?, quote, backslash] using ih
  | escape _ _ ih => simpa [tooDeep?] using ih
  | unicode means _ ih =>
    simp only [hexCode?, Option.bind_eq_bind, Option.bind_eq_some_iff] at means
    obtain ⟨_, first, _, second, _, third, _, fourth, -⟩ := means
    simpa [tooDeep?, ne_of_hexValue first, ne_of_hexValue second, ne_of_hexValue third,
      ne_of_hexValue fourth] using ih

theorem needs_string {string : Text} (spelled : SpellsString string text) : Needs text 0 := by
  obtain ⟨codes⟩ := spelled
  intro room rest
  simpa [tooDeep?] using congrArg (· = none) (tooDeep?_codes codes rest)

/-! ### Containers -/

/-- Brackets around a text take room for one more container. -/
theorem needs_enclosed {opening closing : Char}
    (pair : (opening, closing) ∈ [('[', ']'), ('\x7b', '\x7d')]) (inner : Needs s n) :
    Needs (opening :: (s ++ [closing])) (n + 1) := by
  intro room rest
  have closed (room : Nat) (rest : Text) :
      tooDeep? .outside room (closing :: rest) = tooDeep? .outside (room + 1) rest := by
    rcases List.mem_cons.mp pair with same | same
    · cases same
      rfl
    · cases List.mem_singleton.mp same
      rfl
  have opened : (∃ kind, ∀ rest, tooDeep? .outside 0 (opening :: rest) = some kind) ∧
      ∀ room rest, tooDeep? .outside (room + 1) (opening :: rest)
        = tooDeep? .outside room rest := by
    rcases List.mem_cons.mp pair with same | same
    · cases same
      exact ⟨⟨.array, fun _ => rfl⟩, fun _ _ => rfl⟩
    · cases List.mem_singleton.mp same
      exact ⟨⟨.object, fun _ => rfl⟩, fun _ _ => rfl⟩
  obtain ⟨⟨kind, first⟩, further⟩ := opened
  rw [List.cons_append]
  cases room with
  | zero => simp [first]
  | succ room =>
    rw [further, List.append_assoc]
    simp only [inner room, List.singleton_append, closed, Nat.add_le_add_iff_right]

theorem needs_separator (layout : Layout) : Needs layout.separator 0 := by
  obtain ⟨gap, blank, separator⟩ := separator_comma layout
  rw [separator]
  exact needs_cons (by decide) (needs_blanks blank)

theorem needs_bracketed {opening closing : Char}
    (pair : (opening, closing) ∈ [('[', ']'), ('\x7b', '\x7d')]) {parts : List Text}
    (inner : Needs (List.intercalate layout.deeper.separator parts) n) :
    Needs (bracketed layout opening closing parts) (n + 1) := by
  cases parts with
  | nil => exact needs_enclosed pair inner
  | cons part parts =>
    have turned := needs_append (needs_append (needs_blanks (blanks_turn layout.deeper)) inner)
      (needs_blanks (blanks_turn layout))
    simpa [bracketed] using needs_enclosed pair turned

/-! ### Values that are read -/

theorem membersDepth_put (members : List (Text × Json)) (name : Text) (value : Json) :
    membersDepth (put members name value) ≤ max (membersDepth members) (depth value) := by
  induction members with
  | nil => simp [put, membersDepth]
  | cons member rest ih =>
    unfold put
    split
    · simp only [membersDepth]
      omega
    · simp only [membersDepth]
      omega

/-- An object is no deeper than the members that are set in it one after the other. -/
theorem depth_object (members : List (Text × Json)) :
    depth (object members) ≤ membersDepth members + 1 := by
  have set (done : List (Text × Json)) :
      membersDepth (members.foldl (fun done member => put done member.1 member.2) done)
        ≤ max (membersDepth done) (membersDepth members) := by
    induction members generalizing done with
    | nil => simp [membersDepth]
    | cons member rest ih =>
      have first := membersDepth_put done member.1 member.2
      have others := ih (put done member.1 member.2)
      simp only [List.foldl_cons, membersDepth]
      omega
  have whole := set []
  simp only [membersDepth, Nat.zero_max] at whole
  simp only [object, depth]
  omega

/-- A member is less deep than its object. -/
theorem depth_lt_of_member {v value : Json} {name : Text} (held : v.member? name = some value) :
    depth value < depth v := by
  cases v with
  | obj members =>
    have within : depth value ≤ membersDepth members := by
      simp only [member?] at held
      induction members with
      | nil => cases held
      | cons member rest ih =>
        unfold find? at held
        split at held
        · cases held
          exact Nat.le_max_left _ _
        · exact Nat.le_trans (ih held) (Nat.le_max_right _ _)
    exact Nat.lt_succ_of_le within
  | _ => cases held

/-- The depth of a part of a document. -/
def Part.depth : Part → Nat
  | value v => Json.depth v
  | items vs => itemsDepth vs
  | member m => Json.depth m.2
  | members ms => membersDepth ms

theorem depth_of_value? {numeral : Numeral} {v : Json} (denotes : numeral.value? = some v) :
    depth v = 0 := by
  unfold Numeral.value? at denotes
  split at denotes
  · split at denotes
    · cases denotes
    · cases denotes
      rfl
  · cases denotes
    rfl

theorem depth_of_word {v : Json} (listed : (v, text) ∈ words) : depth v = 0 := by
  have scalars : (words.all fun word => word.1.depth == 0) = true := by decide
  simpa using List.all_eq_true.mp scalars _ listed

/-- A text takes room for so many containers at least. -/
def Demands (s : Text) (least : Nat) : Prop :=
  ∃ containers, least ≤ containers ∧ Needs s containers

theorem demands_of_needs (needs : Needs s n) (within : m ≤ n) : Demands s m := ⟨n, within, needs⟩

namespace Demands

theorem of_le (demands : Demands s n) (within : m ≤ n) : Demands s m := by
  obtain ⟨containers, least, needs⟩ := demands
  exact ⟨containers, Nat.le_trans within least, needs⟩

theorem append_blanks {blanks : Text} (first : Demands s n) (blank : Blanks blanks) :
    Demands (s ++ blanks) n := by
  obtain ⟨containers, least, needs⟩ := first
  exact ⟨containers, least, by simpa using needs_append needs (needs_blanks blank)⟩

/-- Two texts with a mark of their own between them, which is none of a container or a string. -/
theorem separated {mark : Char} {before after : Text} (unmarked : mark ∉ marks)
    (first : Demands s n) (blank : Blanks before) (blank' : Blanks after) (second : Demands t m) :
    Demands (s ++ (before ++ mark :: (after ++ t))) (max n m) := by
  obtain ⟨inside, least, needs⟩ := first
  obtain ⟨behind, least', needs'⟩ := second
  have marked := needs_cons unmarked (needs_append (needs_blanks blank') needs')
  refine ⟨_, ?_, needs_append needs (needs_append (needs_blanks blank) marked)⟩
  omega

theorem enclosed {opening closing : Char} {blanks : Text}
    (pair : (opening, closing) ∈ [('[', ']'), ('\x7b', '\x7d')]) (blank : Blanks blanks)
    (inner : Demands s n) : Demands (opening :: (blanks ++ (s ++ [closing]))) (n + 1) := by
  obtain ⟨inside, least, needs⟩ := inner
  rw [← List.append_assoc]
  refine ⟨_, ?_, needs_enclosed pair (needs_append (needs_blanks blank) needs)⟩
  omega

end Demands

/-- What spells a part of a document takes room for the depth of the part at least. -/
theorem Spells.demands {part : Part} (spelled : Spells part text) : Demands text part.depth := by
  induction spelled with
  | word listed => exact demands_of_needs (needs_word listed) (depth_of_word listed).le
  | number formed denotes =>
    exact demands_of_needs (needs_numeral formed) (depth_of_value? denotes).le
  | string spelled => exact demands_of_needs (needs_string spelled) (Nat.le_refl _)
  | emptyArray blank =>
    exact demands_of_needs (needs_enclosed (by decide) (needs_blanks blank)) (Nat.le_refl _)
  | emptyObject blank =>
    exact demands_of_needs (needs_enclosed (by decide) (needs_blanks blank)) (Nat.le_refl _)
  | array blank _ ih => exact ih.enclosed (by decide) blank
  | object blank _ ih => exact (ih.enclosed (by decide) blank).of_le (depth_object _)
  | lastItem _ blank ih => simpa [Part.depth, itemsDepth] using ih.append_blanks blank
  | item _ first second _ ih others => exact ih.separated (by decide) first second others
  | named named first second _ ih =>
    have name := demands_of_needs (needs_string named) (Nat.le_refl 0)
    simpa [Part.depth] using name.separated (by decide) first second ih
  | lastMember _ blank ih => simpa [Part.depth, membersDepth] using ih.append_blanks blank
  | member _ first second _ ih others => exact ih.separated (by decide) first second others

theorem faultless_of_parse {v : Json} (read : parse s = .ok v) : faultless s = s := by
  simp only [faultless, read]

/-- No value is deeper than there was room to read it. -/
theorem depth_of_parse {v : Json} (read : parse s = .ok v) (fits : overflow? room s = none) :
    depth v ≤ room := by
  rw [overflow?, faultless_of_parse read] at fits
  obtain ⟨before, text, after, rfl, first, second, spelled⟩ := parse_eq_ok_iff.mp read
  obtain ⟨inside, deep, needs⟩ := spelled.demands
  have whole := needs_append (needs_blanks first) (needs_append needs (needs_blanks second)) room []
  rw [List.append_nil] at whole
  have enough := (whole.mp fits).1
  simp only [Part.depth] at deep
  omega

/-! ### Written values -/

theorem needs_intercalated {separator first : Text} {others : List Text}
    (between : Needs separator 0) (head : Needs first n)
    (tail : Needs (List.intercalate separator others) m) :
    Needs (List.intercalate separator (first :: others)) (max n m) := by
  cases others with
  | nil => simpa [List.intercalate] using needs_append head tail
  | cons second others =>
    rw [intercalate_cons]
    simpa using needs_append head (needs_append between tail)

theorem needs_float (b : Binary64) : Needs (writtenFloat b) 0 := by
  obtain ⟨back, spelled⟩ := writtenFloat_spelled b
  generalize writtenFloat b = text at spelled
  cases spelled with
  | word listed => exact needs_word listed
  | number formed => exact needs_numeral formed

theorem needs_int (i : Int) : Needs (Text.ofInt i) 0 := by
  cases i with
  | ofNat n => exact needs_digits (digits_ofNat n)
  | negSucc n => exact needs_cons (by decide) (needs_digits (digits_ofNat (n + 1)))

mutual

/-- What is written for a value needs room for its depth. -/
theorem needs_written (layout : Layout) (v : Json) : Needs (written layout v) (depth v) := by
  cases v with
  | null =>
    have listed : (null, written layout null) ∈ words := by simp [words, written]
    exact needs_word listed
  | bool b =>
    have listed : (bool b, written layout (bool b)) ∈ words := by
      cases b <;> simp [words, written]
    exact needs_word listed
  | int i => exact needs_int i
  | float b => exact needs_float b
  | str s => exact needs_string (writtenString_spelled s)
  | arr items => exact needs_bracketed (by decide) (needs_writtenItems layout.deeper items)
  | obj members => exact needs_bracketed (by decide) (needs_writtenMembers layout.deeper members)

/-- What is written for array items needs room for the greatest depth among them. -/
theorem needs_writtenItems (layout : Layout) (items : List Json) :
    Needs (List.intercalate layout.separator (writtenItems layout items)) (itemsDepth items) := by
  cases items with
  | nil => exact needs_nil
  | cons item rest =>
    exact needs_intercalated (needs_separator layout) (needs_written layout item)
      (needs_writtenItems layout rest)

/-- What is written for object members needs room for the greatest depth among their values. -/
theorem needs_writtenMembers (layout : Layout) (members : List (Text × Json)) :
    Needs (List.intercalate layout.separator (writtenMembers layout members))
      (membersDepth members) := by
  cases members with
  | nil => exact needs_nil
  | cons member rest =>
    obtain ⟨name, value⟩ := member
    have colon : Needs ": ".toList 0 := needs_cons (by decide) (needs_singleton (by decide))
    have named := needs_append (needs_append (needs_string (writtenString_spelled name)) colon)
      (needs_written layout value)
    simp only [Nat.max_self, Nat.zero_max] at named
    exact needs_intercalated (needs_separator layout) named (needs_writtenMembers layout rest)

end

/-- A written value that is read back is read with room for its depth and no less. -/
theorem overflow?_written {v back : Json} {after : Text} (blank : Blanks after)
    (accepted : parse (written layout v ++ after) = .ok back) :
    overflow? room (written layout v ++ after) = none ↔ depth v ≤ room := by
  have needs := needs_append (needs_written layout v) (needs_blanks blank) room []
  rw [List.append_nil, Nat.max_zero] at needs
  rw [overflow?, faultless_of_parse accepted, needs]
  simp [tooDeep?]

end ImportResolution.Json
