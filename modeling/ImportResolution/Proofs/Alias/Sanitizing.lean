import ImportResolution.Alias.Entry

/-! What is taken away from a suffix. The slashes at the two ends of a text go in one pass, in which
each slash is judged by what stands around it. That comes to the same as taking away a slash at the
start and then one at the end of what is left, except for a text that ends with a line feed: a slash
right before it counts as one at the end. -/
namespace ImportResolution.AliasEntry

variable {s : Text}

/-- A text without its first character, if that is a slash. -/
def withoutFirst (s : Text) : Text := if s.head? = some '/' then s.tail else s

/-- A text without its last character, if that is a slash. -/
def withoutLast (s : Text) : Text := if s.getLast? = some '/' then s.dropLast else s

/-- How many of the ends of a text are slashes. One that is alone is at the start. -/
def slashEnds (s : Text) : Nat :=
  (if s.head? = some '/' then 1 else 0) + if (withoutFirst s).getLast? = some '/' then 1 else 0

/-- Whether a place is at an end of a text: nothing stands before it, or nothing stands behind it
but, at most, the line feed that ends the text. -/
def atEnd (first : Bool) (behind : Text) : Bool := first || behind.isEmpty || behind == ['\n']

/-- A text without the slashes at its ends, which are taken away in one pass; `first` tells whether
nothing stands before the text. -/
def trimmed (first : Bool) : Text → Text
  | [] => []
  | c :: rest =>
    if c = '/' ∧ atEnd first rest then trimmed false rest else c :: trimmed false rest

/-! ### The end of a text -/

theorem trimmed_false (s : Text) : trimmed false s = dropLastSlash s := by
  fun_induction dropLastSlash s with
  | case1 => rfl
  | case2 => rfl
  | case3 => rfl
  | case4 c rest inside unfed ih =>
    have kept : ¬ (c = '/' ∧ atEnd false rest = true) := by
      rintro ⟨rfl, last⟩
      simp only [atEnd, Bool.false_or, Bool.or_eq_true, List.isEmpty_iff, beq_iff_eq] at last
      rcases last with rfl | rfl
      · exact inside rfl rfl
      · exact unfed rfl rfl
    rw [trimmed, if_neg kept, ih]

/-- In front of more than one character nothing is at the end. -/
theorem dropLastSlash_cons (c d : Char) (rest : Text) (long : d :: rest ≠ ['\n']) :
    dropLastSlash (c :: d :: rest) = c :: dropLastSlash (d :: rest) := by
  rw [dropLastSlash]
  · simp
  · exact fun _ same => long same

/-- A line feed at the end does not keep the slash before it. -/
theorem dropLastSlash_feed (kept : Text) :
    dropLastSlash (kept ++ ['/', '\n']) = kept ++ ['\n'] := by
  induction kept with
  | nil => rfl
  | cons c rest ih =>
    cases rest with
    | nil => exact dropLastSlash_cons c '/' ['\n'] (by simp)
    | cons d rest =>
      rw [List.cons_append, List.cons_append, dropLastSlash_cons _ _ _ (by simp),
        ← List.cons_append, ih]
      rfl

/-- Any other text loses its last character, if that is a slash. -/
theorem dropLastSlash_of_exposed (exposed : ¬ ['/', '\n'] <:+ s) :
    dropLastSlash s = withoutLast s := by
  fun_induction dropLastSlash s with
  | case1 => rfl
  | case2 => rfl
  | case3 => exact absurd (List.suffix_refl _) exposed
  | case4 c rest inside unfed ih =>
    rw [ih fun hidden => exposed (hidden.trans (List.suffix_cons c rest))]
    cases rest with
    | nil =>
      have other : c ≠ '/' := fun same => inside same rfl
      simp [withoutLast, other]
    | cons d rest =>
      rw [withoutLast, withoutLast, List.getLast?_cons_cons, List.dropLast_cons_cons]
      split <;> rfl

/-- At the end of a text at most one character goes. -/
theorem length_withoutLast (s : Text) :
    s.length = (withoutLast s).length + if s.getLast? = some '/' then 1 else 0 := by
  unfold withoutLast
  split
  · rename_i last
    have inhabited : s ≠ [] := by rintro rfl; cases last
    have positive := List.length_pos_iff.mpr inhabited
    rw [List.length_dropLast]
    omega
  · rfl

/-! ### Both ends -/

theorem length_withoutFirst (s : Text) :
    s.length = (withoutFirst s).length + if s.head? = some '/' then 1 else 0 := by
  unfold withoutFirst
  cases s with
  | nil => rfl
  | cons c rest => split <;> simp

/-- First the start is looked at, and then the end of what is left. -/
theorem sanitize_eq (s : Text) : sanitize s = dropLastSlash (withoutFirst s) := by
  cases s with
  | nil => rfl
  | cons c rest =>
    by_cases slash : c = '/'
    · subst slash
      rfl
    · rw [sanitize, withoutFirst, if_neg (by simpa using slash)]
      exact fun _ same => slash (List.cons.inj same).1

/-- One pass does the same: whether a slash goes depends on no slash that went before it. -/
theorem sanitize_eq_trimmed (s : Text) : sanitize s = trimmed true s := by
  rw [sanitize_eq, ← trimmed_false]
  cases s with
  | nil => rfl
  | cons c rest =>
    by_cases slash : c = '/'
    · simp [withoutFirst, trimmed, atEnd, slash]
    · simp [withoutFirst, trimmed, slash]

theorem sanitize_of_feed {kept : Text} (ends : withoutFirst s = kept ++ ['/', '\n']) :
    sanitize s = kept ++ ['\n'] := by
  rw [sanitize_eq, ends, dropLastSlash_feed]

theorem sanitize_of_exposed (exposed : ¬ ['/', '\n'] <:+ withoutFirst s) :
    sanitize s = withoutLast (withoutFirst s) := by
  rw [sanitize_eq, dropLastSlash_of_exposed exposed]

/-- Where the last slash goes though it is not the last character, the text is shorter by one than
its ends account for. -/
theorem length_of_feed (hidden : ['/', '\n'] <:+ withoutFirst s) :
    s.length = (sanitize s).length + slashEnds s + 1 ∧ slashEnds s ≤ 1 := by
  obtain ⟨kept, ends⟩ := hidden
  have left : (withoutFirst s).length = kept.length + 2 := by simp [← ends]
  have last : (withoutFirst s).getLast? ≠ some '/' := by simp [← ends]
  have made : (sanitize s).length = kept.length + 1 := by simp [sanitize_of_feed ends.symm]
  have first := length_withoutFirst s
  rw [slashEnds, if_neg last]
  refine ⟨by omega, ?_⟩
  split <;> omega

theorem length_of_exposed (exposed : ¬ ['/', '\n'] <:+ withoutFirst s) :
    s.length = (sanitize s).length + slashEnds s := by
  have first := length_withoutFirst s
  have last := length_withoutLast (withoutFirst s)
  rw [sanitize_of_exposed exposed, slashEnds]
  omega

/-- A suffix loses one slash at its start and then one at its end, and nothing else, unless what is
left after the start ends with a slash and a line feed; then that slash goes. -/
theorem stripped_unless_feed (s : Text) :
    sanitize s = trimmed true s ∧
      (sanitize s = withoutLast (withoutFirst s) ↔ ¬ ['/', '\n'] <:+ withoutFirst s) ∧
      (s.length = (sanitize s).length + slashEnds s ↔ ¬ ['/', '\n'] <:+ withoutFirst s) ∧
      (∀ kept, withoutFirst s = kept ++ ['/', '\n'] → sanitize s = kept ++ ['\n']) ∧
      s.length ≤ (sanitize s).length + 2 := by
  have twice : slashEnds s ≤ 2 := by
    unfold slashEnds
    split <;> split <;> omega
  refine ⟨sanitize_eq_trimmed s, ⟨?_, sanitize_of_exposed⟩, ⟨?_, length_of_exposed⟩,
    fun kept => sanitize_of_feed, ?_⟩
  · rintro same ⟨kept, ends⟩
    rw [sanitize_of_feed ends.symm, ← ends] at same
    simp [withoutLast] at same
  · intro accounted hidden
    obtain ⟨shorter, -⟩ := length_of_feed hidden
    omega
  · by_cases hidden : ['/', '\n'] <:+ withoutFirst s
    · obtain ⟨shorter, few⟩ := length_of_feed hidden
      omega
    · have accounted := length_of_exposed hidden
      omega

/-- A line feed inside a text is one character among others, one at its end is looked past. -/
theorem stripped_unless_feed_twofold :
    sanitize "//a\n//".toList = "/a\n/".toList ∧ sanitize "/a//\n".toList = "a/\n".toList := by
  obtain ⟨-, exposed, -⟩ := stripped_unless_feed "//a\n//".toList
  obtain ⟨-, -, -, fed, -⟩ := stripped_unless_feed "/a//\n".toList
  exact ⟨(exposed.mpr (by decide)).trans (by decide), fed "a/".toList (by decide)⟩

/-- Not every suffix loses the slashes at its ends alone: the one before a last line feed goes
too. -/
theorem ends_not_alone : ¬ ∀ s, sanitize s = withoutLast (withoutFirst s) := by
  intro alone
  exact absurd (alone "lib/\n".toList) (by decide)

end ImportResolution.AliasEntry
