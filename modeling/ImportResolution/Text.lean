/-!
Texts are lists of characters. A path, a specifier and a JSON document are all read from the left
one character at a time, so the list is the form in which their rules are stated. This module holds
the operations that every layer shares: cutting at slashes, dropping slashes, writing numbers.
-/
namespace ImportResolution

/-- A text, first character first. -/
abbrev Text := List Char

namespace Text

/-- The pieces of a text between its slashes; a text with `n` slashes has `n + 1` pieces. -/
def segments : Text → List Text
  | [] => [[]]
  | c :: rest =>
    if c = '/' then [] :: segments rest
    else match segments rest with
      | [] => [[c]]
      | first :: others => (c :: first) :: others

/-- The text whose pieces between slashes are the given ones. -/
def ofSegments (pieces : List Text) : Text := List.intercalate ['/'] pieces

theorem segments_ne_nil (s : Text) : segments s ≠ [] := by
  cases s with
  | nil => simp [segments]
  | cons c rest =>
    unfold segments
    split
    · simp
    · split <;> simp

@[simp] theorem segments_slash (rest : Text) : segments ('/' :: rest) = [] :: segments rest := by
  simp [segments]

/-- A slash between two texts is a cut between their pieces. -/
theorem segments_append_slash (s rest : Text) :
    segments (s ++ '/' :: rest) = segments s ++ segments rest := by
  induction s with
  | nil => simp [segments]
  | cons c s ih =>
    by_cases slash : c = '/'
    · subst slash
      simp [ih]
    · obtain ⟨first, others, cut⟩ := List.exists_cons_of_ne_nil (segments_ne_nil s)
      simp [segments, slash, ih, cut]

theorem ofSegments_cons (first : Text) {others : List Text} (h : others ≠ []) :
    ofSegments (first :: others) = first ++ '/' :: ofSegments others := by
  obtain ⟨second, rest, rfl⟩ := List.exists_cons_of_ne_nil h
  simp [ofSegments, List.intercalate, List.intersperse]

/-- Cutting loses nothing. -/
theorem ofSegments_segments (s : Text) : ofSegments (segments s) = s := by
  induction s with
  | nil => rfl
  | cons c s ih =>
    obtain ⟨first, others, cut⟩ := List.exists_cons_of_ne_nil (segments_ne_nil s)
    by_cases slash : c = '/'
    · subst slash
      rw [segments_slash, ofSegments_cons _ (segments_ne_nil s), ih]
      rfl
    · rw [cut] at ih
      simp only [segments, slash, if_false, cut]
      cases others with
      | nil => simpa [ofSegments, List.intercalate, List.intersperse] using ih
      | cons second rest =>
        rw [ofSegments_cons _ (by simp)] at ih ⊢
        rw [List.cons_append, ih]

/-- The text without the slashes at its start. -/
def dropSlashes (s : Text) : Text := s.dropWhile (· = '/')

/-- The text without the slashes at its end. -/
def dropTrailingSlashes (s : Text) : Text := (s.reverse.dropWhile (· = '/')).reverse

/-- The decimal digits of a natural number. -/
def ofNat (n : Nat) : Text := Nat.toDigits 10 n

/-- The decimal digits of an integer, after a minus sign if it is negative. -/
def ofInt : Int → Text
  | .ofNat n => ofNat n
  | .negSucc n => '-' :: ofNat (n + 1)

/-- The natural number that a list of decimal digits writes. -/
def digitsValue (digits : Text) : Nat := digits.foldl (fun n c => 10 * n + (c.toNat - '0'.toNat)) 0

/-- The value of a hexadecimal digit in either case. -/
def hexValue? (c : Char) : Option Nat :=
  if '0' ≤ c ∧ c ≤ '9' then some (c.toNat - '0'.toNat)
  else if 'a' ≤ c ∧ c ≤ 'f' then some (c.toNat - 'a'.toNat + 10)
  else if 'A' ≤ c ∧ c ≤ 'F' then some (c.toNat - 'A'.toNat + 10)
  else none

/-- Lower-case hexadecimal digits, filled with zeros on the left up to the given width. -/
def hex (width n : Nat) : Text :=
  let digits := Nat.toDigits 16 n
  List.replicate (width - digits.length) '0' ++ digits

/-- The parts of a text list, each set off from the next by the given separator. -/
def joinWith (separator : String) (parts : List Text) : Text :=
  List.intercalate separator.toList parts

/-- The character with the given code; a code that belongs to no character, such as half of a
surrogate pair, gives the replacement character. -/
def charOfCode (code : Nat) : Char :=
  if code.isValidChar then Char.ofNat code else '\uFFFD'

end Text

/-- A place in a text as people count it: lines and columns start at one. -/
structure Position where
  line : Nat
  column : Nat
  deriving DecidableEq, Repr

/-- The place of the character that has `offset` characters before it. Only a line feed ends a
line. -/
def Position.ofOffset (s : Text) (offset : Nat) : Position :=
  let before := s.take offset
  { line := before.count '\n' + 1
    column := (before.reverse.takeWhile (· ≠ '\n')).length + 1 }

end ImportResolution
