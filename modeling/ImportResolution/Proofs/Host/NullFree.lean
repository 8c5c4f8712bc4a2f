import ImportResolution.Proofs.Host.Canonical

/-! The null character and canonical forms. No operation on paths puts a character into a path that
is neither in what it is given nor one of those that paths are made with; so where links have no
null character in their targets, canonical forms have none, and can be resolved again. -/
namespace ImportResolution

variable {c : Char}

theorem Text.mem_of_mem_segments {s piece : Text} (member : piece ∈ segments s) (held : c ∈ piece) :
    c ∈ s := by
  induction s generalizing piece with
  | nil =>
    rw [List.mem_singleton.mp member] at held
    cases held
  | cons first s ih =>
    obtain ⟨head, others, cut⟩ := List.exists_cons_of_ne_nil (segments_ne_nil s)
    unfold segments at member
    split at member
    · rcases List.mem_cons.mp member with rfl | member
      · cases held
      · exact List.mem_cons_of_mem _ (ih member held)
    · simp only [cut] at member ih
      rcases List.mem_cons.mp member with rfl | member
      · rcases List.mem_cons.mp held with rfl | held
        · exact List.mem_cons_self ..
        · exact List.mem_cons_of_mem _ (ih (List.mem_cons_self ..) held)
      · exact List.mem_cons_of_mem _ (ih (List.mem_cons_of_mem _ member) held)

theorem Text.mem_ofSegments {pieces : List Text} (held : c ∈ ofSegments pieces) :
    c = '/' ∨ ∃ piece ∈ pieces, c ∈ piece := by
  induction pieces with
  | nil => cases held
  | cons first others ih =>
    by_cases last : others = []
    · subst last
      exact .inr ⟨first, by simp, by simpa [ofSegments, List.intercalate] using held⟩
    · rw [ofSegments_cons first last] at held
      rcases List.mem_append.mp held with held | held
      · exact .inr ⟨first, by simp, held⟩
      · rcases List.mem_cons.mp held with slash | held
        · exact .inl slash
        · rcases ih held with slash | ⟨piece, member, held⟩
          · exact .inl slash
          · exact .inr ⟨piece, by simp [member], held⟩

theorem PlainPath.mem_toText {s : Text} (held : c ∈ (ofText s).toText) :
    c ∈ s ∨ c = '/' ∨ c = '.' := by
  unfold toText at held
  simp only at held
  split at held
  · exact .inr (.inr (by simpa [Path.here] using held))
  · rcases List.mem_append.mp held with held | held
    · exact .inr (.inl (List.eq_of_mem_replicate held))
    · rcases Text.mem_ofSegments held with slash | ⟨piece, member, held⟩
      · exact .inr (.inl slash)
      · exact .inl (Text.mem_of_mem_segments (List.mem_filter.mp member).1 held)

namespace Path

variable {p q : Text}

theorem mem_join (held : c ∈ join p q) : c ∈ p ∨ c ∈ q ∨ c = '/' := by
  unfold join at held
  split at held
  · exact .inr (.inl held)
  split at held
  · exact (List.mem_append.mp held).imp_right .inl
  · rcases List.mem_append.mp held with held | held
    · exact .inl held
    · exact .inr (List.mem_cons.mp held).symm

theorem mem_dirname (held : c ∈ dirname p) : c ∈ p := by
  have before : c ∈ upToSlash p := by
    unfold dirname at held
    simp only at held
    split at held
    · exact held
    · exact List.mem_reverse.mp ((List.dropWhile_sublist _).subset (List.mem_reverse.mp held))
  exact List.mem_reverse.mp ((List.dropWhile_sublist _).subset (List.mem_reverse.mp before))

end Path

theorem Canonical.mem_parent {path : Text} (held : c ∈ parent path) :
    c ∈ path ∨ c = '/' ∨ c = '.' := by
  have up : c ∈ Path.up → c ∈ path ∨ c = '/' ∨ c = '.' := by
    intro held
    exact .inr (.inr (by simpa [Path.up] using held))
  unfold parent at held
  split at held
  · exact up held
  split at held
  · rcases Path.mem_join held with held | held | slash
    · rcases Path.mem_join held with held | held | slash
      · exact .inl (Path.mem_dirname held)
      · exact up held
      · exact .inr (.inl slash)
    · exact up held
    · exact .inr (.inl slash)
  · exact .inl (Path.mem_dirname held)

namespace Host

open Canonical

variable {h : Host} {path target out : Text}

/-- The target of every link is one that a system can store: there is no null character in it. -/
def LinksStorable (h : Host) : Prop :=
  ∀ place target, (place, Node.link target) ∈ h.tree.nodes → '\x00' ∉ target

theorem linksStorable_iff (h : Host) :
    (h.tree.nodes.all fun
      | (_, .link target) => !target.contains '\x00'
      | _ => true) = true ↔ h.LinksStorable := by
  rw [List.all_eq_true]
  constructor
  · intro all place target member
    simpa using all _ member
  · rintro storable ⟨place, node⟩ member
    cases node with
    | link target => simpa using storable place target member
    | _ => rfl

instance (h : Host) : Decidable h.LinksStorable := decidable_of_iff _ (linksStorable_iff h)

theorem link_of_linkTarget? (asked : h.linkTarget? path = some target) :
    ∃ place, (place, Node.link target) ∈ h.tree.nodes := by
  unfold linkTarget? at asked
  split at asked
  · rename_i place held found
    cases asked
    have held := FileTree.node?_of_lookup found
    refine ⟨place, FileTree.mem_of_node? held ?_⟩
    rintro rfl
    cases held
  · cases asked

/-- A resolution that goes along pieces without the null character stays on such paths. -/
theorem invariant_nullFree (storable : h.LinksStorable) :
    Invariant h.linkTarget? (fun path => '\x00' ∉ path) (fun piece => '\x00' ∉ piece) where
  root := by decide
  parent free held := by
    rcases mem_parent held with held | slash | dot
    · exact free held
    · cases slash
    · cases dot
  join free valid fits plain held := by
    rcases Path.mem_join held with held | held | slash
    · exact free held
    · exact fits held
    · cases slash
  target asked piece member held := by
    obtain ⟨place, stands⟩ := link_of_linkTarget? asked
    exact storable place _ stands (Text.mem_of_mem_segments member held)

/-- The pieces of a path without the null character are free of it. -/
theorem nullFree_plain (clean : path.contains '\x00' = false) :
    ∀ piece ∈ Text.segments (PlainPath.ofText path).toText, '/' ∉ piece ∧ '\x00' ∉ piece := by
  intro piece member
  refine ⟨Text.no_slash_of_mem_segments member, fun held => ?_⟩
  rcases PlainPath.mem_toText (Text.mem_of_mem_segments member held) with held | slash | dot
  · simp [held] at clean
  · cases slash
  · cases dot

/-- Without a loop, the canonical form of a path has no null character. -/
theorem nullFree_of_canonical (storable : h.LinksStorable) (loopless : h.Loopless path)
    (found : h.canonical path = .ok out) : out.contains '\x00' = false := by
  have whole := nullFree_plain (canonical_ok found).1
  obtain ⟨p, seen, -, -, resolved⟩ := resolved_of_canonical loopless found
  have root : '\x00' ∉ ['/'] := by decide
  have kept : (resolveFrom h.linkTarget? h.resolutionLimit [] ['/']
      (Text.segments (PlainPath.ofText path).toText)).Kept ('\x00' ∉ ·) :=
    resolveFrom_kept (invariant_nullFree storable) nofun root whole
  rw [resolved] at kept
  simpa using kept.1

/-- Without a loop, the canonical form of a path is the canonical form of itself, and meets no loop
either. -/
theorem settled_of_canonical (storable : h.LinksStorable) (loopless : h.Loopless path)
    (found : h.canonical path = .ok out) : h.canonical out = .ok out ∧ h.Loopless out := by
  have clean := nullFree_of_canonical storable loopless found
  refine ⟨canonical_canonical loopless found clean, ?_⟩
  obtain ⟨p, free, rfl⟩ := linkFree_of_canonical loopless found
  exact loopless_of_linkFree free

end Host
end ImportResolution
