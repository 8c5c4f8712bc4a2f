import ImportResolution.Host
import ImportResolution.Proofs.Relaxed.Strict

/-! Line ends in documents. A line can only end between the parts of a document, so a document keeps
its value when every line end is written as a line feed. -/
namespace ImportResolution

namespace Host

variable {s t part : Text} {c : Char}

theorem unifyLineEnds_cons (other : c ≠ '\r') (tail : Text) :
    unifyLineEnds (c :: tail) = c :: unifyLineEnds tail := by
  rw [unifyLineEnds.eq_def]
  split <;> rename_i same <;> cases same
  · exact absurd rfl other
  · exact absurd rfl other
  · rfl

/-- Line ends are unified piece by piece, unless a line end is cut into two. -/
theorem unifyLineEnds_append (apart : s.getLast? ≠ some '\r' ∨ t.head? ≠ some '\n') :
    unifyLineEnds (s ++ t) = unifyLineEnds s ++ unifyLineEnds t := by
  fun_induction unifyLineEnds s with
  | case1 => rfl
  | case2 rest ih =>
    have apart : rest.getLast? ≠ some '\r' ∨ t.head? ≠ some '\n' := by
      cases rest with
      | nil => simp
      | cons c rest => simpa using apart
    simp [unifyLineEnds, ih apart]
  | case3 rest alone ih =>
    cases rest with
    | nil =>
      have alone : t.head? ≠ some '\n' := by simpa using apart
      cases t with
      | nil => rfl
      | cons c t =>
        have other : c ≠ '\n' := by simpa using alone
        simp [unifyLineEnds, other]
    | cons c rest =>
      have other : c ≠ '\n' := by rintro rfl; exact alone _ rfl
      have apart : (c :: rest).getLast? ≠ some '\r' ∨ t.head? ≠ some '\n' := by simpa using apart
      have more := ih apart
      rw [List.cons_append] at more ⊢
      rw [List.cons_append, unifyLineEnds, more]
      · rfl
      · rintro tail ⟨⟩; exact other rfl
  | case4 c rest pair other ih =>
    have apart : rest.getLast? ≠ some '\r' ∨ t.head? ≠ some '\n' := by
      cases rest with
      | nil => simp
      | cons d rest => simpa using apart
    rw [List.cons_append, unifyLineEnds_cons other, ih apart, List.cons_append]

/-- A text without carriage returns stays as it is. -/
theorem unifyLineEnds_of_not_mem (none : '\r' ∉ s) : unifyLineEnds s = s := by
  induction s with
  | nil => rfl
  | cons c s ih =>
    simp only [List.mem_cons, not_or] at none
    rw [unifyLineEnds_cons (Ne.symm none.1), ih none.2]

theorem nil_of_prefix_feed (whole : '\n' ∉ part) (start : part <+: '\n' :: s) : part = [] := by
  cases part with
  | nil => rfl
  | cons d part =>
    simp only [List.mem_cons, not_or] at whole
    exact absurd (List.cons_prefix_cons.mp start).1.symm whole.1

theorem prefix_of_unified (whole : '\n' ∉ part) (start : part <+: unifyLineEnds s) : part <+: s := by
  fun_induction unifyLineEnds s generalizing part with
  | case1 => exact start
  | case2 rest ih | case3 rest alone ih =>
    rw [nil_of_prefix_feed whole start]
    exact List.nil_prefix
  | case4 c rest pair other ih =>
    cases part with
    | nil => exact List.nil_prefix
    | cons d part =>
      simp only [List.mem_cons, not_or] at whole
      obtain ⟨rfl, start'⟩ := List.cons_prefix_cons.mp start
      exact List.cons_prefix_cons.mpr ⟨rfl, ih whole.2 start'⟩

/-- A piece without line ends that stands in the unified text stood in the text. -/
theorem infix_of_unified (whole : '\n' ∉ part) (inside : part <:+: unifyLineEnds s) :
    part <:+: s := by
  fun_induction unifyLineEnds s with
  | case1 => exact inside
  | case2 rest ih =>
    rcases List.infix_cons_iff.mp inside with start | inside
    · rw [nil_of_prefix_feed whole start]
      exact List.nil_infix
    · exact (ih inside).trans ⟨['\r', '\n'], [], by simp⟩
  | case3 rest alone ih =>
    rcases List.infix_cons_iff.mp inside with start | inside
    · rw [nil_of_prefix_feed whole start]
      exact List.nil_infix
    · exact (ih inside).trans ⟨['\r'], [], by simp⟩
  | case4 c rest pair other ih =>
    rcases List.infix_cons_iff.mp inside with start | inside
    · have start : part <+: unifyLineEnds (c :: rest) := by rwa [unifyLineEnds_cons other]
      exact (prefix_of_unified whole start).isInfix
    · exact (ih inside).trans ⟨[c], [], by simp⟩

end Host

namespace Json

variable {s text : Text} {v : Json}

open Host

/-! ### Documents with other line ends -/

theorem blanks_unified (blank : Blanks text) : Blanks (unifyLineEnds text) := by
  fun_induction unifyLineEnds text with
  | case1 => exact blank
  | case2 rest ih | case3 rest alone ih =>
    exact List.forall_mem_cons.mpr ⟨by decide, ih fun c member => blank c (by simp [member])⟩
  | case4 c rest pair other ih =>
    exact List.forall_mem_cons.mpr
      ⟨blank c (by simp), ih fun c member => blank c (by simp [member])⟩

theorem no_return_digits {digits : Text} (all : Digits digits) : '\r' ∉ digits :=
  fun member => absurd (all _ member) (by decide)

theorem no_return_numeral {n : Numeral} (formed : n.WellFormed) : '\r' ∉ n.text := by
  obtain ⟨negative, digits, fraction?, exponent?⟩ := n
  obtain ⟨isWhole, isFraction, isExponent⟩ := formed
  have whole : '\r' ∉ digits := by
    cases isWhole with
    | zero => decide
    | digits digit nonzero all => exact no_return_digits (List.forall_mem_cons.mpr ⟨digit, all⟩)
  have fraction : '\r' ∉ Numeral.fractionText fraction? := by
    cases fraction? with
    | none => simp [Numeral.fractionText]
    | some digits =>
      simpa [Numeral.fractionText] using no_return_digits (isFraction digits rfl).2
  have exponent : '\r' ∉ Numeral.exponentText exponent? := by
    cases exponent? with
    | none => simp [Numeral.exponentText]
    | some e =>
      obtain ⟨mark, sign, -, all⟩ := isExponent e rfl
      have digits := no_return_digits all
      rcases mark with mark | mark <;> rcases sign with sign | sign | sign <;>
        simp [Numeral.exponentText, Exponent.text, Exponent.size, mark, sign, digits]
  have unsigned : '\r' ∉ Numeral.unsigned ⟨negative, digits, fraction?, exponent?⟩ := by
    simp [Numeral.unsigned, whole, fraction, exponent]
  unfold Numeral.text
  split
  · simpa using unsigned
  · exact unsigned

theorem no_return_word (listed : (v, text) ∈ words) : '\r' ∉ text := by
  simp only [words, List.mem_cons, Prod.mk.injEq, List.not_mem_nil, or_false] at listed
  rcases listed with ⟨-, rfl⟩ | ⟨-, rfl⟩ | ⟨-, rfl⟩ | ⟨-, rfl⟩ | ⟨-, rfl⟩ | ⟨-, rfl⟩ <;> decide

theorem no_return_string {read : Text} (spelled : SpellsString read text) : '\r' ∉ text :=
  fun member => spelled.printable _ member (by decide)

/-- A part comes out of unified line ends as another text. A list of items or members may end with
blanks, and then what follows must not go on within a line end. -/
def Unifies : Part → Text → Text → Prop
  | .value _, text, unified | .member _, text, unified =>
    ∀ behind, unifyLineEnds (text ++ behind) = unified ++ unifyLineEnds behind
  | .items _, text, unified | .members _, text, unified =>
    ∀ behind, behind.head? ≠ some '\n' →
      unifyLineEnds (text ++ behind) = unified ++ unifyLineEnds behind

theorem unifyLineEnds_solid (none : '\r' ∉ text) (behind : Text) :
    unifyLineEnds (text ++ behind) = text ++ unifyLineEnds behind := by
  rw [unifyLineEnds_append (.inl fun last => none (List.mem_of_getLast? last)),
    unifyLineEnds_of_not_mem none]

theorem unifyLineEnds_mark (mark : Char) (before : Text) (solid : mark ≠ '\n' ∧ mark ≠ '\r')
    (behind : Text) :
    unifyLineEnds (before ++ mark :: behind)
      = unifyLineEnds before ++ mark :: unifyLineEnds behind := by
  rw [unifyLineEnds_append (.inr (by simpa using solid.1)), unifyLineEnds_cons solid.2]

/-- No line end is cut where a part begins. -/
theorem unifyLineEnds_spelled {part : Part} (spelled : Spells part text) (before behind : Text) :
    unifyLineEnds (before ++ (text ++ behind))
      = unifyLineEnds before ++ unifyLineEnds (text ++ behind) := by
  refine unifyLineEnds_append (.inr ?_)
  obtain ⟨c, tail, rfl, opening⟩ := spelled.head
  rintro ⟨⟩
  exact absurd (Part.opens_imp opening) (by decide)

theorem unifyLineEnds_empty {opening bracket : Char} (begins : opening ≠ '\r')
    (ends : bracket ≠ '\n' ∧ bracket ≠ '\r') (blanks behind : Text) :
    unifyLineEnds (opening :: (blanks ++ [bracket]) ++ behind)
      = opening :: (unifyLineEnds blanks ++ [bracket]) ++ unifyLineEnds behind := by
  have closing := unifyLineEnds_mark bracket blanks ends behind
  simp [unifyLineEnds_cons begins, closing]

theorem unifyLineEnds_enclosed {part : Part} {opening bracket : Char} {unified : Text}
    (begins : opening ≠ '\r') (ends : bracket ≠ '\n' ∧ bracket ≠ '\r') (spelled : Spells part text)
    (alike : ∀ behind, behind.head? ≠ some '\n' →
      unifyLineEnds (text ++ behind) = unified ++ unifyLineEnds behind) (blanks behind : Text) :
    unifyLineEnds (opening :: (blanks ++ (text ++ [bracket])) ++ behind)
      = opening :: (unifyLineEnds blanks ++ (unified ++ [bracket])) ++ unifyLineEnds behind := by
  have front := unifyLineEnds_spelled spelled blanks (bracket :: behind)
  have inner := alike (bracket :: behind) (by simpa using ends.1)
  simp [unifyLineEnds_cons begins, unifyLineEnds_cons ends.2, front, inner]

/-- The blanks behind the last part of a list go with it. -/
theorem unifyLineEnds_last {unified behind : Text}
    (alike : ∀ behind, unifyLineEnds (text ++ behind) = unified ++ unifyLineEnds behind)
    (blanks : Text) (apart : behind.head? ≠ some '\n') :
    unifyLineEnds (text ++ blanks ++ behind)
      = unified ++ unifyLineEnds blanks ++ unifyLineEnds behind := by
  rw [List.append_assoc, alike, unifyLineEnds_append (.inr apart), List.append_assoc]

/-- Two parts with a mark between them come out one by one. -/
theorem unifyLineEnds_joined {part : Part} {mark : Char} {unified unified' others behind : Text}
    (solid : mark ≠ '\n' ∧ mark ≠ '\r') (more : Spells part others)
    (alike : ∀ behind, unifyLineEnds (text ++ behind) = unified ++ unifyLineEnds behind)
    (last : unifyLineEnds (others ++ behind) = unified' ++ unifyLineEnds behind)
    (before after : Text) :
    unifyLineEnds (text ++ (before ++ mark :: (after ++ others)) ++ behind)
      = unified ++ (unifyLineEnds before ++ mark :: (unifyLineEnds after ++ unified'))
        ++ unifyLineEnds behind := by
  have front := alike (before ++ mark :: (after ++ (others ++ behind)))
  have between := unifyLineEnds_mark mark before solid (after ++ (others ++ behind))
  have next := unifyLineEnds_spelled more after behind
  simp [front, between, next, last]

/-- With unified line ends a part still spells what it spelled. -/
theorem Spells.unified {part : Part} (spelled : Spells part text) :
    ∃ unified, Spells part unified ∧ Unifies part text unified := by
  induction spelled with
  | word listed => exact ⟨_, .word listed, unifyLineEnds_solid (no_return_word listed)⟩
  | number formed denotes =>
    exact ⟨_, .number formed denotes, unifyLineEnds_solid (no_return_numeral formed)⟩
  | string spelled => exact ⟨_, .string spelled, unifyLineEnds_solid (no_return_string spelled)⟩
  | emptyArray blank =>
    exact ⟨_, .emptyArray (blanks_unified blank), unifyLineEnds_empty (by decide) (by decide) _⟩
  | emptyObject blank =>
    exact ⟨_, .emptyObject (blanks_unified blank), unifyLineEnds_empty (by decide) (by decide) _⟩
  | array blank spelled ih =>
    obtain ⟨unified, again, alike⟩ := ih
    exact ⟨_, .array (blanks_unified blank) again,
      unifyLineEnds_enclosed (by decide) (by decide) spelled alike _⟩
  | object blank spelled ih =>
    obtain ⟨unified, again, alike⟩ := ih
    exact ⟨_, .object (blanks_unified blank) again,
      unifyLineEnds_enclosed (by decide) (by decide) spelled alike _⟩
  | lastItem spelled blank ih =>
    obtain ⟨unified, again, alike⟩ := ih
    exact ⟨_, .lastItem again (blanks_unified blank), fun _ => unifyLineEnds_last alike _⟩
  | lastMember spelled blank ih =>
    obtain ⟨unified, again, alike⟩ := ih
    exact ⟨_, .lastMember again (blanks_unified blank), fun _ => unifyLineEnds_last alike _⟩
  | item spelled first second more ih ihMore =>
    obtain ⟨unified, again, alike⟩ := ih
    obtain ⟨unified', again', alike'⟩ := ihMore
    exact ⟨_, .item again (blanks_unified first) (blanks_unified second) again',
      fun behind apart => unifyLineEnds_joined (by decide) more alike (alike' behind apart) _ _⟩
  | member spelled first second more ih ihMore =>
    obtain ⟨unified, again, alike⟩ := ih
    obtain ⟨unified', again', alike'⟩ := ihMore
    exact ⟨_, .member again (blanks_unified first) (blanks_unified second) again',
      fun behind apart => unifyLineEnds_joined (by decide) more alike (alike' behind apart) _ _⟩
  | named named first second spelled ih =>
    obtain ⟨unified, again, alike⟩ := ih
    have label := unifyLineEnds_solid (no_return_string named)
    exact ⟨_, .named named (blanks_unified first) (blanks_unified second) again,
      fun behind => unifyLineEnds_joined (by decide) spelled label (alike behind) _ _⟩

/-- A document is read as the same value with unified line ends. -/
theorem parse_unified (accepted : parse s = .ok v) : parse (unifyLineEnds s) = .ok v := by
  obtain ⟨before, text, after, rfl, first, second, spelled⟩ := parse_eq_ok_iff.mp accepted
  obtain ⟨unified, again, alike⟩ := spelled.unified
  exact parse_eq_ok_iff.mpr ⟨_, unified, _, by rw [unifyLineEnds_spelled spelled, alike],
    blanks_unified first, blanks_unified second, again⟩

/-- Unified line ends put no escapes together. -/
theorem pairFree_unified (free : PairFree s) : PairFree (unifyLineEnds s) := by
  rintro pair escaped inside
  refine free pair escaped (infix_of_unified ?_ inside)
  obtain ⟨first, second, -, -⟩ := escaped
  have printable := printable_of_hexCode first
  have printable' := printable_of_hexCode second
  intro feed
  have parts : '\n' ∈ ['\\', 'u'] ++ ([_, _, _, _] ++ (['\\', 'u'] ++ [_, _, _, _])) := feed
  rcases List.mem_append.mp parts with mark | member
  · exact absurd mark (by decide)
  rcases List.mem_append.mp member with digit | member
  · exact printable _ digit (by decide)
  rcases List.mem_append.mp member with mark | digit
  · exact absurd mark (by decide)
  · exact printable' _ digit (by decide)

/-! ### A document as a section of another -/

/-- The text of an object with the value of a document as its only member. -/
def sectionText (name t : Text) : Text :=
  '\x7b' :: (writtenString name ++ ": ".toList ++ t ++ ['\x7d'])

/-- Put into an object, a document keeps its value. -/
theorem parse_sectionText (name : Text) (accepted : parse s = .ok v) :
    parse (sectionText name s) = .ok (.obj [(name, v)]) := by
  obtain ⟨before, text, after, rfl, first, second, spelled⟩ := parse_eq_ok_iff.mp accepted
  have gap : Blanks (' ' :: before) := List.forall_mem_cons.mpr ⟨by decide, first⟩
  have labelled := Spells.named (writtenString_spelled name) blanks_nil gap spelled
  have whole := Spells.object blanks_nil (.lastMember labelled second)
  refine parse_eq_ok_iff.mpr ⟨[], _, [], ?_, blanks_nil, blanks_nil, whole⟩
  simp [sectionText]

end Json
end ImportResolution
