import ImportResolution.Relaxed.Rule

/-! What rules find, apart from the places at which tests fail on the way, which only messages show.
A rule finds the same wherever a text stands, and what a rule that is made of others finds follows
from what these find. -/
namespace ImportResolution.Relaxed.Rule

variable {α β : Type} {r first second : Rule α} {next : α → Rule β} {s mid rest : Text} {a : α}
  {b : β} {c : Char} {test : Char → Bool}

/-- A rule finds a thing at the start of a text, and leaves the rest of it. -/
def Finds (r : Rule α) (s : Text) (a : α) (rest : Text) : Prop :=
  ∀ offset, ∃ after, (r ⟨offset, s⟩).found? = some (a, ⟨after, rest⟩)

/-- A rule finds nothing at the start of a text. -/
def Misses (r : Rule α) (s : Text) : Prop := ∀ offset, (r ⟨offset, s⟩).found? = none

/-! ### Rules one after the other -/

theorem found?_bind (r : Rule α) (next : α → Rule β) (c : Cursor) :
    ((r >>= next) c).found? = (r c).found?.bind fun (a, after) => (next a after).found? := by
  simp only [bind, andThen]
  split <;> rename_i same <;> simp [same]

theorem finds_pure (a : α) (s : Text) : Finds (pure a) s a s := fun offset => ⟨offset, rfl⟩

theorem finds_bind (here : Finds r s a mid) (there : Finds (next a) mid b rest) :
    Finds (r >>= next) s b rest := by
  intro offset
  obtain ⟨between, found⟩ := here offset
  obtain ⟨after, found'⟩ := there between
  exact ⟨after, by simp [found?_bind, found, found']⟩

theorem misses_bind (missed : Misses r s) : Misses (r >>= next) s :=
  fun offset => by simp [found?_bind, missed offset]

theorem misses_bind_next (here : Finds r s a mid) (missed : Misses (next a) mid) :
    Misses (r >>= next) s := by
  intro offset
  obtain ⟨between, found⟩ := here offset
  simp [found?_bind, found, missed between]

theorem finds_map (f : α → β) (here : Finds r s a rest) : Finds (f <$> r) s (f a) rest :=
  finds_bind here (finds_pure _ _)

theorem misses_map (f : α → β) (missed : Misses r s) : Misses (f <$> r) s := misses_bind missed

/-! ### Ordered choice -/

theorem found?_orElse (first second : Rule α) (c : Cursor) :
    ((first <|> second) c).found? = (first c).found?.or (second c).found? := by
  change (orElse first second c).found? = _
  unfold orElse
  split <;> rename_i same <;> simp [same]

theorem finds_first (here : Finds first s a rest) : Finds (first <|> second) s a rest := by
  intro offset
  obtain ⟨after, found⟩ := here offset
  exact ⟨after, by simp [found?_orElse, found]⟩

theorem finds_second (missed : Misses first s) (here : Finds second s a rest) :
    Finds (first <|> second) s a rest := by
  intro offset
  obtain ⟨after, found⟩ := here offset
  exact ⟨after, by simp [found?_orElse, missed offset, found]⟩

theorem misses_orElse (missed : Misses first s) (missed' : Misses second s) :
    Misses (first <|> second) s :=
  fun offset => by simp [found?_orElse, missed offset, missed' offset]

theorem finds_optional (here : Finds r s a rest) : Finds (optional r) s (some a) rest :=
  finds_first (finds_map some here)

theorem finds_optional_none (missed : Misses r s) : Finds (optional r) s none s :=
  finds_second (misses_map some missed) (finds_pure none s)

/-! ### Characters -/

theorem finds_any (c : Char) (rest : Text) : Finds any (c :: rest) c rest :=
  fun offset => ⟨offset + 1, rfl⟩

theorem finds_satisfy (passes : test c = true) (rest : Text) :
    Finds (satisfy test) (c :: rest) c rest :=
  fun offset => ⟨offset + 1, by simp [satisfy, passes]⟩

/-- A rule for one character misses at the end and where the next character fails the test. -/
theorem misses_satisfy (fails : ∀ c ∈ s.head?, test c = false) : Misses (satisfy test) s := by
  intro offset
  cases s with
  | nil => rfl
  | cons c rest => simp [satisfy, fails c rfl]

theorem misses_ofClass (fails : ∀ c ∈ s.head?, test c = false) : Misses (ofClass test) s := by
  intro offset
  cases s with
  | nil => rfl
  | cons c rest => simp [ofClass, fails c rfl]

theorem finds_char (c : Char) (rest : Text) : Finds (char c) (c :: rest) c rest :=
  finds_satisfy (by simp) rest

theorem misses_char (other : ∀ x ∈ s.head?, x ≠ c) : Misses (char c) s :=
  misses_satisfy fun x head => by simpa using other x head

theorem finds_oneOf {xs : List Char} (listed : c ∈ xs) (rest : Text) :
    Finds (oneOf xs) (c :: rest) c rest :=
  finds_satisfy (by simpa using listed) rest

theorem misses_oneOf {xs : List Char} (others : ∀ x ∈ s.head?, x ∉ xs) : Misses (oneOf xs) s :=
  misses_satisfy fun x head => by simpa using others x head

theorem finds_literal (text rest : Text) : Finds (literal text) (text ++ rest) () rest := by
  induction text with
  | nil => exact finds_pure () rest
  | cons c text ih => exact finds_bind (finds_char c _) ih

/-- Given characters are missed where the first one of them does not stand. -/
theorem misses_literal (text : Text) (other : ∀ x ∈ s.head?, x ≠ c) :
    Misses (literal (c :: text)) s :=
  misses_bind (misses_char other)

theorem finds_atEnd : Finds atEnd [] () [] := fun offset => ⟨offset, rfl⟩

/-! ### Looking ahead -/

theorem finds_not (missed : Misses r s) : Finds (not r) s () s := by
  intro offset
  refine ⟨offset, ?_⟩
  unfold not
  split <;> rename_i same
  · have missed := missed offset
    rw [same] at missed
    cases missed
  · rfl

theorem misses_not (here : Finds r s a rest) : Misses (not r) s := by
  intro offset
  obtain ⟨after, found⟩ := here offset
  unfold not
  split <;> rename_i same
  · rfl
  · rw [same] at found
    cases found

/-! ### Repetitions -/

/-- What is left after something was taken is shorter. -/
theorem length_lt_of_taken (c : Char) (taken rest : Text) :
    rest.length < (c :: taken ++ rest).length := by
  rw [List.cons_append, List.length_cons, List.length_append]
  omega

/-- The repetitions of a rule that consumes something at each of them, up to where it finds
nothing. -/
inductive Repeats (r : Rule α) : Text → List α → Text → Prop where
  | done {s : Text} (missed : Misses r s) : Repeats r s [] s
  | more {s mid rest : Text} {a : α} {others : List α} (here : Finds r s a mid)
      (consumes : mid.length < s.length) (there : Repeats r mid others rest) :
      Repeats r s (a :: others) rest

theorem finds_many {found : List α} (repeats : Repeats r s found rest) :
    Finds (many r) s found rest := by
  have bounded : ∀ limit offset, s.length < limit →
      ∃ after, (upTo r limit ⟨offset, s⟩).found? = some (found, ⟨after, rest⟩) := by
    induction repeats with
    | @done s missed =>
      intro limit offset enough
      cases limit with
      | zero => omega
      | succ limit =>
        have missed := missed offset
        unfold upTo
        split <;> rename_i same
        · exact ⟨offset, rfl⟩
        · rw [same] at missed
          cases missed
    | @more s mid rest a others here consumes there ih =>
      intro limit offset enough
      cases limit with
      | zero => omega
      | succ limit =>
        obtain ⟨between, found⟩ := here offset
        obtain ⟨after, found'⟩ := ih limit between (by omega)
        refine ⟨after, ?_⟩
        unfold upTo
        split <;> rename_i same
        · rw [same] at found
          cases found
        · rw [same] at found
          cases found
          simp [found']
  intro offset
  exact bounded _ offset (Nat.lt_succ_self _)

end ImportResolution.Relaxed.Rule
