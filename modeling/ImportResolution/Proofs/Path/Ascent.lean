import ImportResolution.Proofs.Path.Tidy
import Mathlib.Logic.Function.Iterate

/-! The way up from a path. Taking the directory name round after round comes to a path that is its
own directory, whatever the path looks like, and no path is met twice. From a normal absolute path
one meets the path itself and all directories that it lies below, nearest first. -/
namespace ImportResolution

namespace Path

/-- The way up ends: after no more rounds than the path has characters, taking the directory name
changes nothing any more, and until then it does in every round. -/
theorem exists_rounds (p : Text) :
    ∃ rounds ≤ p.length,
      (∀ round, dirname^[round + 1] p = dirname^[round] p ↔ rounds ≤ round) ∧
      ancestors p = (List.range (rounds + 1)).map fun round => dirname^[round] p := by
  induction p using ancestors.induct with
  | case1 p last =>
    refine ⟨0, Nat.zero_le _, fun round => ?_, ?_⟩
    · simp [Function.iterate_fixed last]
    · rw [ancestors, if_pos last]
      rfl
  | case2 p more ih =>
    obtain ⟨rounds, few, ends, met⟩ := ih
    refine ⟨rounds + 1, Nat.lt_of_le_of_lt few (length_dirname_lt more), fun round => ?_, ?_⟩
    · cases round with
      | zero => simpa using more
      | succ round => simpa using ends round
    · rw [ancestors, if_neg more, met, List.range_succ_eq_map (n := rounds + 1), List.map_cons,
        List.map_map]
      rfl

end Path

namespace PlainPath

variable {p q : PlainPath}

/-- The directory that the first names of a path lead to. -/
def upTo (p : PlainPath) (count : Nat) : PlainPath := { p with names := p.names.take count }

theorem normal_upTo (normal : p.Normal) (count : Nat) : (p.upTo count).Normal where
  rooted := normal.rooted
  few := normal.few
  plain := fun name member => normal.plain name (List.mem_of_mem_take member)

/-- All initial parts of a list of names, longest first. -/
theorem cons_initialParts (names : List Text) :
    names :: initialParts names
      = (List.range (names.length + 1)).reverse.map fun count => names.take count := by
  induction names with
  | nil => rfl
  | cons name names ih =>
    have longer := congrArg (List.map (name :: ·)) ih
    rw [List.length_cons, List.range_succ_eq_map (n := names.length + 1), List.reverse_cons,
      List.map_append, ← List.map_reverse, List.map_map]
    simp only [initialParts, List.map_cons, List.map_map] at longer ⊢
    rw [← List.cons_append, longer]
    rfl

/-- A path and the directories above it are those that its first names lead to. -/
theorem cons_parents (p : PlainPath) :
    p :: p.parents = (List.range (p.names.length + 1)).reverse.map p.upTo := by
  have parts := congrArg (List.map fun names => ({ p with names } : PlainPath))
    (cons_initialParts p.names)
  rw [List.map_cons, List.map_map] at parts
  exact parts

/-- From a normal path one meets, nearest first, the directories that its first names lead to. -/
theorem ancestors_upTo (normal : p.Normal) :
    Path.ancestors p.toText
      = (List.range (p.names.length + 1)).reverse.map fun count => (p.upTo count).toText := by
  rw [ancestors_toText normal.rooted normal.plain, ← List.map_cons, cons_parents, List.map_map]
  rfl

/-- Names lead from one normal path down to another as they do from text to text. -/
theorem within_iff (normal : p.Normal) (normal' : q.Normal) :
    Path.Within q.toText p.toText ↔ q ∈ p :: p.parents := by
  constructor
  · rintro (same | ⟨names, -, valid, written⟩)
    · exact List.mem_cons.mpr (.inl (eq_of_toText normal' normal same.symm))
    · rw [descend_toText normal'.rooted normal'.plain valid] at written
      have below : (q.under names).Normal :=
        ⟨normal'.rooted, normal'.few, List.forall_mem_append.mpr ⟨normal'.plain, valid⟩⟩
      have same : p = q.under names := eq_of_toText normal below written
      obtain ⟨nearer, way, -⟩ := way_up q names
      rw [same, way]
      simp
  · intro member
    obtain ⟨names, rfl⟩ := exists_under member
    obtain ⟨plain, valid⟩ := List.forall_mem_append.mp normal.plain
    rw [under, ← descend_toText normal'.rooted plain valid]
    by_cases here : names = []
    · exact .inl (by rw [here]; rfl)
    · exact .inr ⟨names, here, valid, rfl⟩

/-- The first names of a path lead to a place below that to which fewer of them lead. -/
theorem below_upTo (normal : p.Normal) {fewer more : Nat} (less : fewer < more)
    (most : more ≤ p.names.length) : Path.Below (p.upTo fewer).toText (p.upTo more).toText := by
  have normal' := normal_upTo normal fewer
  have split : (p.upTo more).names = (p.upTo fewer).names ++ (p.names.take more).drop fewer := by
    have cut := List.take_append_drop fewer (p.names.take more)
    rw [List.take_take, Nat.min_eq_left less.le] at cut
    exact cut.symm
  have valid : ∀ name ∈ (p.names.take more).drop fewer, Path.IsName name := fun name member =>
    normal.plain name (List.mem_of_mem_take (List.mem_of_mem_drop member))
  refine ⟨(p.names.take more).drop fewer, ?_, valid, ?_⟩
  · intro none
    have lengths := congrArg List.length none
    simp only [List.length_drop, List.length_take, List.length_nil] at lengths
    omega
  · rw [descend_toText normal'.rooted normal'.plain valid, ← split]
    rfl

end PlainPath

namespace Path

variable {p q : Text}

/-- From a normal path one meets those normal directories that it is or lies below. -/
theorem mem_ancestors_iff (absolute : isAbsolute p = true) (normal : normalize p = p)
    (absolute' : isAbsolute q = true) (normal' : normalize q = q) :
    q ∈ ancestors p ↔ Within q p := by
  have plain := PlainPath.normal_ofText absolute normal
  have written := PlainPath.toText_of_normal absolute normal
  have written' := PlainPath.toText_of_normal absolute' normal'
  have within := PlainPath.within_iff plain (PlainPath.normal_ofText absolute' normal')
  have met := PlainPath.ancestors_toText plain.rooted plain.plain
  rw [← List.map_cons, written] at met
  rw [written, written'] at within
  rw [within, met, List.mem_map]
  constructor
  · rintro ⟨above, member, rfl⟩
    have proper : above.Proper := by
      rcases List.mem_cons.mp member with rfl | further
      · exact PlainPath.proper_ofText p
      · exact PlainPath.proper_of_mem_parents (PlainPath.proper_ofText p) further
    rwa [PlainPath.ofText_toText proper]
  · intro member
    exact ⟨_, member, written'⟩

end Path
end ImportResolution
