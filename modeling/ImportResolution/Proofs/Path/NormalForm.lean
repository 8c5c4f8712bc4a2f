import ImportResolution.Path.Plain

/-! Normal forms of paths. A path means no more than the slashes of its root and its names, so every
operation on texts has a counterpart on plain paths, where it is a fact about lists: joining appends
names, and normalizing lets two dots remove the name before them. -/
namespace ImportResolution

namespace Text

variable {s piece : Text} {pieces : List Text}

theorem segments_of_no_slash (whole : '/' ∉ s) : segments s = [s] := by
  induction s with
  | nil => rfl
  | cons c s ih =>
    simp only [List.mem_cons, not_or] at whole
    simp [segments, Ne.symm whole.1, ih whole.2]

theorem no_slash_of_mem_segments (member : piece ∈ segments s) : '/' ∉ piece := by
  induction s generalizing piece with
  | nil => simp_all [segments]
  | cons c s ih =>
    by_cases slash : c = '/'
    · subst slash
      rw [segments_slash] at member
      rcases List.mem_cons.mp member with rfl | member
      · simp
      · exact ih member
    · obtain ⟨first, others, cut⟩ := List.exists_cons_of_ne_nil (segments_ne_nil s)
      simp only [segments, slash, if_false, cut] at member
      rcases List.mem_cons.mp member with rfl | member
      · have whole : '/' ∉ first := ih (by simp [cut])
        simp [Ne.symm slash, whole]
      · exact ih (by simp [cut, member])

/-- Cutting at slashes gives back the pieces that were put together. -/
theorem segments_ofSegments (nonempty : pieces ≠ []) (whole : ∀ piece ∈ pieces, '/' ∉ piece) :
    segments (ofSegments pieces) = pieces := by
  induction pieces with
  | nil => exact absurd rfl nonempty
  | cons piece rest ih =>
    have first := segments_of_no_slash (whole piece (by simp))
    cases rest with
    | nil => simpa [ofSegments, List.intercalate, List.intersperse] using first
    | cons next rest =>
      rw [ofSegments_cons _ (by simp), segments_append_slash, first,
        ih (by simp) (fun piece member => whole piece (by simp [member]))]
      rfl

/-- A slash joins the texts of two lists of pieces. -/
theorem ofSegments_append {front back : List Text} (first : front ≠ []) (second : back ≠ []) :
    ofSegments (front ++ back) = ofSegments front ++ '/' :: ofSegments back := by
  induction front with
  | nil => exact absurd rfl first
  | cons piece front ih =>
    cases front with
    | nil =>
      rw [List.singleton_append, ofSegments_cons piece second]
      simp [ofSegments]
    | cons next front =>
      rw [List.cons_append, ofSegments_cons piece (by simp), ih (by simp),
        ofSegments_cons piece (by simp), List.append_assoc, List.cons_append]

theorem ofSegments_snoc (nonempty : pieces ≠ []) (last : Text) :
    ofSegments (pieces ++ [last]) = ofSegments pieces ++ '/' :: last := by
  rw [ofSegments_append nonempty (by simp)]
  simp [ofSegments]

theorem suffix_ofSegments (nonempty : pieces ≠ []) :
    pieces.getLast nonempty <:+ ofSegments pieces := by
  induction pieces with
  | nil => exact absurd rfl nonempty
  | cons piece rest ih =>
    cases rest with
    | nil => simp [ofSegments, List.intercalate, List.intersperse]
    | cons next rest =>
      rw [ofSegments_cons _ (by simp), List.getLast_cons (by simp)]
      exact (ih (by simp)).trans ((List.suffix_cons _ _).trans (List.suffix_append _ _))

@[simp] theorem ofSegments_nil : ofSegments [] = [] := rfl

end Text

namespace Path

variable {p q name segment : Text} {names stack segments : List Text} {rooted : Bool}

/-- A name leads one directory down: it is neither empty nor made of dots that mean a direction, and
it has no slash. -/
structure IsName (name : Text) : Prop where
  nonempty : name ≠ []
  not_here : name ≠ here
  not_up : name ≠ up
  no_slash : '/' ∉ name

instance (name : Text) : Decidable (IsName name) :=
  decidable_of_iff (name ≠ [] ∧ name ≠ here ∧ name ≠ up ∧ '/' ∉ name)
    ⟨fun ⟨nonempty, not_here, not_up, no_slash⟩ => ⟨nonempty, not_here, not_up, no_slash⟩,
      fun valid => ⟨valid.nonempty, valid.not_here, valid.not_up, valid.no_slash⟩⟩

theorem isAbsolute_name (valid : IsName name) : isAbsolute name = false := by
  cases held : name with
  | nil => rfl
  | cons c rest =>
    have : c ≠ '/' := by rintro rfl; exact valid.no_slash (by simp [held])
    simp [isAbsolute, this]

/-- The slashes at the start of a path mark its root, and only two of them count as two. -/
theorem rootSlashes_eq (p : Text) :
    rootSlashes p = match (p.takeWhile (· = '/')).length with
      | 0 => 0
      | 2 => 2
      | _ => 1 := by
  match p with
  | [] => rfl
  | [c] => by_cases first : c = '/' <;> simp [rootSlashes, List.takeWhile, first]
  | [c, d] =>
    by_cases first : c = '/' <;> by_cases second : d = '/' <;>
      simp [rootSlashes, List.takeWhile, first, second]
  | c :: d :: e :: p =>
    by_cases first : c = '/' <;> by_cases second : d = '/' <;> by_cases third : e = '/' <;>
      simp [rootSlashes, List.takeWhile, first, second, third]

theorem rootSlashes_le (p : Text) : rootSlashes p ≤ 2 := by
  rw [rootSlashes_eq]
  split <;> decide

theorem takeWhile_of_relative (relative : isAbsolute p = false) : p.takeWhile (· = '/') = [] := by
  cases p with
  | nil => rfl
  | cons c p =>
    have : c ≠ '/' := by rintro rfl; simp [isAbsolute] at relative
    simp [this]

theorem isAbsolute_iff_rootSlashes : isAbsolute p = true ↔ rootSlashes p ≠ 0 := by
  constructor
  · intro absolute
    cases p with
    | nil => simp [isAbsolute] at absolute
    | cons c p =>
      have first : c = '/' := by simpa [isAbsolute] using absolute
      rw [rootSlashes_eq, first]
      simp only [List.takeWhile, decide_true]
      split <;> simp_all
  · intro rooted
    cases relative : isAbsolute p with
    | true => rfl
    | false => simp [rootSlashes_eq, takeWhile_of_relative relative] at rooted

theorem rootSlashes_of_relative (relative : isAbsolute p = false) : rootSlashes p = 0 := by
  simp [rootSlashes_eq, takeWhile_of_relative relative]

/-- What is put behind a path that has a beginning does not change its root. -/
theorem rootSlashes_append (nonempty : p ≠ [])
    (apart : isAbsolute q = false ∨ p.getLast? ≠ some '/') :
    rootSlashes (p ++ q) = rootSlashes p := by
  have same : (p ++ q).takeWhile (· = '/') = p.takeWhile (· = '/') := by
    rw [List.takeWhile_append]
    split
    · rename_i full
      have whole : p.takeWhile (· = '/') = p :=
        (List.takeWhile_sublist _).eq_of_length full
      rcases apart with relative | other
      · rw [takeWhile_of_relative relative, List.append_nil, whole]
      · have slashes : ∀ c ∈ p, c = '/' := by
          intro c member
          have all := List.all_takeWhile (l := p) (p := fun c => decide (c = '/'))
          rw [whole, List.all_eq_true] at all
          simpa using all c member
        refine absurd ?_ other
        rw [List.getLast?_eq_some_getLast nonempty, slashes _ (List.getLast_mem nonempty)]
    · rfl
  rw [rootSlashes_eq, same, ← rootSlashes_eq]

theorem rootSlashes_replicate (few : slashes ≤ 2) (relative : isAbsolute q = false) :
    rootSlashes (List.replicate slashes '/' ++ q) = slashes := by
  rw [rootSlashes_eq, List.takeWhile_append_of_pos (by simp), takeWhile_of_relative relative]
  match slashes, few with
  | 0, _ => rfl
  | 1, _ => rfl
  | 2, _ => rfl

/-- A relative path is put behind another one with one slash between them. -/
theorem join_relative (relative : isAbsolute q = false) :
    (p = [] ∧ join p q = q) ∨ (∃ front, p = front ++ ['/'] ∧ join p q = front ++ '/' :: q) ∨
      (p ≠ [] ∧ p.getLast? ≠ some '/' ∧ join p q = p ++ '/' :: q) := by
  by_cases empty : p = []
  · exact .inl ⟨empty, by simp [join, relative, empty]⟩
  · by_cases ended : p.getLast? = some '/'
    · obtain ⟨front, rfl⟩ := List.getLast?_eq_some_iff.mp ended
      exact .inr (.inl ⟨front, rfl, by simp [join, relative]⟩)
    · exact .inr (.inr ⟨empty, ended, by simp [join, relative, empty, ended]⟩)

/-! ### Removing names -/

theorem push_trivial (trivial : name = [] ∨ name = here) : push rooted stack name = stack := by
  simp [push, trivial]

theorem push_name (valid : IsName name) : push rooted stack name = name :: stack := by
  simp [push, valid.nonempty, valid.not_here, valid.not_up]

/-- At the root two dots never stay: they take the name before them along, or vanish. -/
theorem push_up_rooted (plain : ∀ name ∈ stack, IsName name) : push true stack up = stack.tail := by
  cases stack with
  | nil => simp [push, up, here]
  | cons last stack =>
    have : last ≠ up := (plain last (by simp)).not_up
    simp [push, this]
    simp [up, here]

/-- Empty segments and single dots can be left out beforehand. -/
theorem foldl_push_filter (segments stack : List Text) :
    (segments.filter fun segment => segment ≠ [] ∧ segment ≠ here).foldl (push rooted) stack
      = segments.foldl (push rooted) stack := by
  induction segments generalizing stack with
  | nil => rfl
  | cons segment segments ih =>
    by_cases trivial : segment = [] ∨ segment = here
    · have : ¬ (segment ≠ [] ∧ segment ≠ here) := by rintro ⟨_, _⟩; simp_all
      simp only [List.filter_cons, this, decide_false, Bool.false_eq_true, if_false,
        List.foldl_cons, push_trivial trivial, ih]
    · have : segment ≠ [] ∧ segment ≠ here := by simpa using trivial
      simp only [List.filter_cons, this, ne_eq, not_false_eq_true, and_self, decide_true, if_true,
        List.foldl_cons, ih]

theorem reduce_filter (segments : List Text) :
    reduce rooted (segments.filter fun segment => segment ≠ [] ∧ segment ≠ here)
      = reduce rooted segments := by
  rw [reduce, foldl_push_filter, reduce]

theorem foldl_push_names (rooted : Bool) (stack : List Text)
    (plain : ∀ name ∈ names, IsName name) :
    names.foldl (push rooted) stack = names.reverse ++ stack := by
  induction names generalizing stack with
  | nil => rfl
  | cons name names ih =>
    rw [List.foldl_cons, push_name (plain name (by simp)),
      ih _ (fun name member => plain name (by simp [member]))]
    simp

/-- Names alone are left as they are. -/
theorem reduce_names (plain : ∀ name ∈ names, IsName name) : reduce rooted names = names := by
  simp [reduce, foldl_push_names rooted [] plain]

theorem push_rooted_plain (plain : ∀ name ∈ stack, IsName name) (whole : '/' ∉ segment) :
    ∀ name ∈ push true stack segment, IsName name := by
  by_cases trivial : segment = [] ∨ segment = here
  · rwa [push_trivial trivial]
  · by_cases above : segment = up
    · subst above
      rw [push_up_rooted plain]
      exact fun name member => plain name (List.mem_of_mem_tail member)
    · simp only [not_or] at trivial
      have valid : IsName segment := ⟨trivial.1, trivial.2, above, whole⟩
      rw [push_name valid]
      intro name member
      rcases List.mem_cons.mp member with rfl | member
      · exact valid
      · exact plain name member

theorem foldl_push_rooted_plain (segments : List Text) (plain : ∀ name ∈ stack, IsName name)
    (whole : ∀ segment ∈ segments, '/' ∉ segment) :
    ∀ name ∈ segments.foldl (push true) stack, IsName name := by
  induction segments generalizing stack with
  | nil => exact plain
  | cons segment segments ih =>
    exact ih (push_rooted_plain plain (whole segment (by simp)))
      (fun segment member => whole segment (by simp [member]))

/-- Below a root nothing but names is left. -/
theorem reduce_rooted_plain (whole : ∀ segment ∈ segments, '/' ∉ segment) :
    ∀ name ∈ reduce true segments, IsName name := by
  intro name member
  exact foldl_push_rooted_plain segments (by simp) whole name (List.mem_reverse.mp member)

/-- Removing names first in one part of a rooted path and then in all of it is removing them in
all of it. -/
theorem reduce_reduce_append (front back : List Text) (whole : ∀ segment ∈ front, '/' ∉ segment) :
    reduce true (reduce true front ++ back) = reduce true (front ++ back) := by
  have settled := foldl_push_names true [] (reduce_rooted_plain whole)
  unfold reduce at settled ⊢
  rw [List.foldl_append, settled, List.foldl_append]
  simp

end Path

namespace PlainPath

variable {p : PlainPath} {s t name : Text}

/-- What every plain path satisfies that is read from a text: two slashes at most, and no name that
cutting at slashes would not give. -/
structure Proper (p : PlainPath) : Prop where
  few : p.slashes ≤ 2
  pieces : ∀ name ∈ p.names, name ≠ [] ∧ name ≠ Path.here ∧ '/' ∉ name

theorem proper_ofText (s : Text) : (ofText s).Proper := by
  refine ⟨Path.rootSlashes_le s, ?_⟩
  intro name member
  have ⟨cut, kept⟩ := List.mem_filter.mp member
  have ⟨nonempty, other⟩ : name ≠ [] ∧ name ≠ Path.here := by simpa using kept
  exact ⟨nonempty, other, Text.no_slash_of_mem_segments cut⟩

@[simp] theorem names_nil : (ofText []).names = [] := rfl

@[simp] theorem names_here : (ofText Path.here).names = [] := by decide

@[simp] theorem names_slash (t : Text) : (ofText ('/' :: t)).names = (ofText t).names := by
  simp [ofText]

theorem names_append_slash (s t : Text) :
    (ofText (s ++ '/' :: t)).names = (ofText s).names ++ (ofText t).names := by
  simp [ofText, Text.segments_append_slash]

@[simp] theorem names_dropSlashes (s : Text) :
    (ofText (Text.dropSlashes s)).names = (ofText s).names := by
  induction s with
  | nil => rfl
  | cons c s ih =>
    by_cases slash : c = '/'
    · subst slash
      simpa [Text.dropSlashes] using ih
    · simp [Text.dropSlashes, slash]

theorem names_of_name (valid : Path.IsName name) : (ofText name).names = [name] := by
  simp [ofText, Text.segments_of_no_slash valid.no_slash, valid.nonempty, valid.not_here]

theorem toText_of_rooted (rooted : p.slashes ≠ 0) :
    p.toText = List.replicate p.slashes '/' ++ Text.ofSegments p.names := by
  have : (List.replicate p.slashes '/' ++ Text.ofSegments p.names).isEmpty = false := by
    simp [rooted]
  simp [toText, this]

/-- The first name shows whether anything stands behind the root. -/
theorem isAbsolute_ofSegments (proper : p.Proper) :
    Path.isAbsolute (Text.ofSegments p.names) = false := by
  match held : p.names with
  | [] => rfl
  | [] :: names => exact absurd rfl (proper.pieces [] (by simp [held])).1
  | (c :: first) :: names =>
    have whole := (proper.pieces (c :: first) (by simp [held])).2.2
    have other : c ≠ '/' := by rintro rfl; simp at whole
    cases names with
    | nil => simp [Text.ofSegments, List.intercalate, List.intersperse, Path.isAbsolute, other]
    | cons next names =>
      rw [Text.ofSegments_cons _ (by simp)]
      simp [Path.isAbsolute, other]

theorem isAbsolute_toText (rooted : p.slashes ≠ 0) : Path.isAbsolute p.toText = true := by
  rw [toText_of_rooted rooted]
  obtain ⟨slashes, same⟩ := Nat.exists_eq_succ_of_ne_zero rooted
  simp [same, List.replicate_succ, Path.isAbsolute]

theorem isAbsolute_toText_join (rooted : p.slashes ≠ 0) (q : PlainPath) :
    Path.isAbsolute (p.join q).toText = true := by
  apply isAbsolute_toText
  unfold join
  split <;> assumption

theorem filter_names (proper : p.Proper) :
    (p.names.filter fun segment => segment ≠ [] ∧ segment ≠ Path.here) = p.names := by
  rw [List.filter_eq_self]
  intro name member
  have ⟨nonempty, other, _⟩ := proper.pieces name member
  simp [nonempty, other]

theorem filter_segments_ofSegments (proper : p.Proper) :
    ((Text.segments (Text.ofSegments p.names)).filter
      fun segment => segment ≠ [] ∧ segment ≠ Path.here) = p.names := by
  by_cases nonempty : p.names = []
  · rw [nonempty]; rfl
  · rw [Text.segments_ofSegments nonempty (fun name member => (proper.pieces name member).2.2),
      filter_names proper]

theorem names_replicate (slashes : Nat) (s : Text) :
    (ofText (List.replicate slashes '/' ++ s)).names = (ofText s).names := by
  induction slashes with
  | zero => rfl
  | succ slashes ih => rw [List.replicate_succ, List.cons_append, names_slash, ih]

/-- Writing a plain path and reading it again changes nothing. -/
theorem ofText_toText (proper : p.Proper) : ofText p.toText = p := by
  have names := filter_segments_ofSegments proper
  by_cases rooted : p.slashes = 0
  · by_cases nonempty : p.names = []
    · have : p = ⟨0, []⟩ := by cases p; simp_all
      rw [this]
      decide
    · obtain ⟨first, rest, held⟩ := List.exists_cons_of_ne_nil nonempty
      have written : p.toText = Text.ofSegments p.names := by
        have : Text.ofSegments p.names ≠ [] := by
          intro empty
          rw [empty] at names
          exact nonempty names.symm
        simp [toText, rooted, this]
      have slashes := Path.rootSlashes_of_relative (isAbsolute_ofSegments proper)
      cases p
      simp_all [ofText]
  · have slashes : (ofText p.toText).slashes = p.slashes := by
      rw [toText_of_rooted rooted]
      exact Path.rootSlashes_replicate proper.few (isAbsolute_ofSegments proper)
    have kept : (ofText p.toText).names = p.names := by
      rw [toText_of_rooted rooted, names_replicate]
      exact names
    cases p
    exact PlainPath.mk.injEq .. ▸ ⟨slashes, kept⟩

theorem slashes_join (relative : Path.isAbsolute t = false) :
    (ofText (Path.join s t)).slashes = (ofText s).slashes := by
  rcases Path.join_relative (p := s) relative with ⟨rfl, joined⟩ | ⟨front, rfl, joined⟩ |
    ⟨nonempty, open_, joined⟩
  · rw [joined]
    exact Path.rootSlashes_of_relative relative
  · rw [joined]
    simpa [ofText] using Path.rootSlashes_append (p := front ++ ['/']) (by simp) (.inl relative)
  · rw [joined]
    exact Path.rootSlashes_append nonempty (.inr open_)

theorem names_join (relative : Path.isAbsolute t = false) :
    (ofText (Path.join s t)).names = (ofText s).names ++ (ofText t).names := by
  rcases Path.join_relative (p := s) relative with ⟨rfl, joined⟩ | ⟨front, rfl, joined⟩ |
    ⟨_, _, joined⟩
  · rw [joined, names_nil, List.nil_append]
  · rw [joined, names_append_slash, names_append_slash front [], names_nil, List.append_nil]
  · rw [joined, names_append_slash]

/-- Joining texts is joining what they denote. -/
theorem ofText_join (s t : Text) : ofText (Path.join s t) = (ofText s).join (ofText t) := by
  cases relative : Path.isAbsolute t with
  | true =>
    have rooted : (ofText t).slashes ≠ 0 := Path.isAbsolute_iff_rootSlashes.mp relative
    simp [Path.join, relative, join, rooted]
  | false =>
    have unrooted : (ofText t).slashes = 0 := Path.rootSlashes_of_relative relative
    rw [join, if_neg (not_not_intro unrooted), ← names_join relative, ← slashes_join relative]

/-- The plain path with single names removed by the two dots behind them. -/
def settle (p : PlainPath) : PlainPath :=
  { p with names := Path.reduce (p.slashes ≠ 0) p.names }

/-- The normal form of a text is what it denotes, settled. -/
theorem normalize_eq (s : Text) : Path.normalize s = (ofText s).settle.toText := by
  have names : (ofText s).settle.names = Path.reduce (Path.rootSlashes s ≠ 0) (Text.segments s) :=
    Path.reduce_filter _
  rw [toText, names]
  rfl

theorem proper_of_names (few : p.slashes ≤ 2) (plain : ∀ name ∈ p.names, Path.IsName name) :
    p.Proper := by
  refine ⟨few, ?_⟩
  intro name member
  have valid := plain name member
  exact ⟨valid.nonempty, valid.not_here, valid.no_slash⟩

/-- A settled path below a root consists of names. -/
theorem settle_plain (proper : p.Proper) (rooted : p.slashes ≠ 0) :
    ∀ name ∈ p.settle.names, Path.IsName name := by
  simp only [settle, rooted, ne_eq, not_false_eq_true, decide_true]
  exact Path.reduce_rooted_plain fun name member => (proper.pieces name member).2.2

theorem settle_of_names (plain : ∀ name ∈ p.names, Path.IsName name) : p.settle = p := by
  simp [settle, Path.reduce_names plain]

theorem proper_settle (proper : p.Proper) (rooted : p.slashes ≠ 0) : p.settle.Proper :=
  proper_of_names proper.few (settle_plain proper rooted)

/-- Reading the normal form of an absolute path gives what the path denotes, settled. -/
theorem ofText_normalize (absolute : Path.isAbsolute s = true) :
    ofText (Path.normalize s) = (ofText s).settle := by
  have rooted : (ofText s).slashes ≠ 0 := Path.isAbsolute_iff_rootSlashes.mp absolute
  rw [normalize_eq, ofText_toText (proper_settle (proper_ofText s) rooted)]

end PlainPath

namespace Path

variable {p q r name : Text}

/-- The normal form of an absolute path is absolute. -/
theorem isAbsolute_normalize (absolute : isAbsolute p = true) :
    isAbsolute (normalize p) = true := by
  rw [PlainPath.normalize_eq]
  exact PlainPath.isAbsolute_toText (isAbsolute_iff_rootSlashes.mp absolute)

theorem isAbsolute_join (absolute : isAbsolute p = true) (q : Text) :
    isAbsolute (join p q) = true := by
  rw [isAbsolute_iff_rootSlashes] at absolute ⊢
  have joined := congrArg PlainPath.slashes (PlainPath.ofText_join p q)
  simp only [PlainPath.join] at joined
  rw [show rootSlashes (join p q) = _ from joined]
  split <;> assumption

/-- A normal form is its own normal form. -/
theorem normalize_normalize (absolute : isAbsolute p = true) :
    normalize (normalize p) = normalize p := by
  have rooted : (PlainPath.ofText p).slashes ≠ 0 := isAbsolute_iff_rootSlashes.mp absolute
  have plain := PlainPath.settle_plain (PlainPath.proper_ofText p) rooted
  rw [PlainPath.normalize_eq, PlainPath.ofText_normalize absolute,
    PlainPath.settle_of_names plain, PlainPath.normalize_eq]

/-- Below one root, relative paths with the same names lead to the same place. -/
theorem normalize_join_congr (p : Text) (first : isAbsolute q = false)
    (second : isAbsolute r = false)
    (same : (PlainPath.ofText q).names = (PlainPath.ofText r).names) :
    normalize (join p q) = normalize (join p r) := by
  have unrooted : (PlainPath.ofText q).slashes = 0 := rootSlashes_of_relative first
  have unrooted' : (PlainPath.ofText r).slashes = 0 := rootSlashes_of_relative second
  simp [PlainPath.normalize_eq, PlainPath.ofText_join, PlainPath.join, unrooted, unrooted', same]

/-- Whether a directory is normalized before or after a relative path is put behind it makes no
difference. -/
theorem normalize_join_normalize (absolute : isAbsolute p = true)
    (relative : isAbsolute q = false) : normalize (join (normalize p) q) = normalize (join p q) := by
  have rooted : (PlainPath.ofText p).slashes ≠ 0 := isAbsolute_iff_rootSlashes.mp absolute
  have unrooted : (PlainPath.ofText q).slashes = 0 := rootSlashes_of_relative relative
  have whole : ∀ name ∈ (PlainPath.ofText p).names, '/' ∉ name :=
    fun name member => ((PlainPath.proper_ofText p).pieces name member).2.2
  rw [PlainPath.normalize_eq, PlainPath.ofText_join, PlainPath.ofText_normalize absolute,
    PlainPath.normalize_eq (join p q), PlainPath.ofText_join]
  simp only [PlainPath.join, unrooted, PlainPath.settle, rooted, ne_eq, not_true_eq_false, if_false,
    not_false_eq_true, decide_true, reduce_reduce_append _ _ whole]

end Path
end ImportResolution
