import ImportResolution.FileTree.Canonical
import ImportResolution.Proofs.Path.Descent

/-! Link-free paths. Resolving links gives a path on which no directory is a link, unless a link
leads back to itself; and a path without links resolves to itself, as does every path above it. -/
namespace ImportResolution.Canonical

/-- A path from the root on which no name belongs to a link. -/
inductive LinkFree (target? : Text → Option Text) : PlainPath → Prop where
  | root : LinkFree target? ⟨1, []⟩
  | child {p : PlainPath} {name : Text} (above : LinkFree target? p) (valid : Path.IsName name)
      (plain : target? (p.child name).toText = none) : LinkFree target? (p.child name)

variable {target? : Text → Option Text} {p : PlainPath} {name path : Text} {seen : Seen}

theorem slashes_of_linkFree (free : LinkFree target? p) : p.slashes = 1 := by
  induction free with
  | root => rfl
  | child above valid plain ih => exact ih

theorem rooted_of_linkFree (free : LinkFree target? p) : p.slashes ≠ 0 := by
  rw [slashes_of_linkFree free]
  decide

theorem names_of_linkFree (free : LinkFree target? p) : ∀ name ∈ p.names, Path.IsName name := by
  induction free with
  | root => simp
  | child above valid plain ih =>
    intro name member
    rcases List.mem_append.mp member with member | member
    · exact ih name member
    · exact List.mem_singleton.mp member ▸ valid

theorem proper_of_linkFree (free : LinkFree target? p) : p.Proper :=
  PlainPath.proper_of_names (by rw [slashes_of_linkFree free]; decide) (names_of_linkFree free)

theorem normalize_of_linkFree (free : LinkFree target? p) : Path.normalize p.toText = p.toText := by
  rw [PlainPath.normalize_eq, PlainPath.ofText_toText (proper_of_linkFree free),
    PlainPath.settle_of_names (names_of_linkFree free)]

/-- The directory above a link-free path is link-free. -/
theorem parent_of_linkFree (free : LinkFree target? p) :
    ∃ q, LinkFree target? q ∧ parent p.toText = q.toText := by
  cases free with
  | root => exact ⟨_, .root, by decide⟩
  | @child p name above valid plain =>
    have rooted := rooted_of_linkFree above
    have nonempty : (p.child name).toText ≠ [] := by
      obtain ⟨front, written⟩ := PlainPath.exists_toText_child rooted name
      simp [written]
    refine ⟨p, above, ?_⟩
    rw [parent, if_neg nonempty, PlainPath.basename_child rooted valid.no_slash,
      if_neg valid.not_up, PlainPath.dirname_child rooted (names_of_linkFree above) valid.no_slash]

/-- A text that writes a link-free path. -/
def Settled (target? : Text → Option Text) (path : Text) : Prop :=
  ∃ p, LinkFree target? p ∧ path = p.toText

theorem settled_root : Settled target? ['/'] := ⟨⟨1, []⟩, .root, by decide⟩

theorem settled_parent (settled : Settled target? path) : Settled target? (parent path) := by
  obtain ⟨p, free, rfl⟩ := settled
  exact parent_of_linkFree free

theorem settled_join (settled : Settled target? path) (valid : Path.IsName name)
    (plain : target? (Path.join path name) = none) : Settled target? (Path.join path name) := by
  obtain ⟨p, free, rfl⟩ := settled
  rw [PlainPath.join_toText (rooted_of_linkFree free) (names_of_linkFree free) valid] at plain ⊢
  exact ⟨_, .child free valid plain, rfl⟩

/-- Remembering one more link keeps what holds of all paths that are remembered. -/
theorem remembered_cons {holds : Text → Prop} {resolved? : Option Text}
    (known : ∀ link path, seen.lookup link = some (some path) → holds path) (link : Text)
    (new : ∀ path, resolved? = some path → holds path) :
    ∀ other path, List.lookup other ((link, resolved?) :: seen) = some (some path) → holds path := by
  intro other path held
  by_cases same : other = link
  · rw [same, List.lookup_cons_self] at held
    exact new path (Option.some.inj held)
  · have differs : (other == link) = false := by simpa using same
    rw [List.lookup_cons, differs] at held
    exact known other path held

/-- What a resolution can keep: something that holds of the root, stays as it goes up, and comes
back as it goes down to a name that is no link, given what fits the pieces on its way. -/
structure Invariant (target? : Text → Option Text) (holds fit : Text → Prop) : Prop where
  root : holds ['/']
  parent : ∀ {path}, holds path → holds (parent path)
  join : ∀ {path name}, holds path → Path.IsName name → fit name →
    target? (Path.join path name) = none → holds (Path.join path name)
  target : ∀ {link target}, target? link = some target → ∀ piece ∈ Text.segments target, fit piece

/-- Without a loop a resolution stays on link-free paths, whatever the pieces are. -/
theorem invariant_settled : Invariant target? (Settled target?) (fun _ => True) where
  root := settled_root
  parent := settled_parent
  join settled valid _ plain := settled_join settled valid plain
  target _ _ _ := trivial

variable {holds fit : Text → Prop}

/-- What a run keeps: it ends on a path of which the invariant holds, or stops below one with pieces
left to go. -/
def Stop.Kept (target? : Text → Option Text) (holds fit : Text → Prop) : Stop → Prop
  | .ended path => holds path
  | .loops _ => True
  | .atLink directory link target rest =>
    holds directory ∧ target? link = some target ∧ ∀ piece ∈ rest, '/' ∉ piece ∧ fit piece

theorem run_kept (invariant : Invariant target? holds fit) {components : List Text}
    (known : ∀ link path, seen.lookup link = some (some path) → holds path)
    (kept : holds path) (whole : ∀ piece ∈ components, '/' ∉ piece ∧ fit piece) :
    (run target? seen path components).Kept target? holds fit := by
  induction components generalizing path with
  | nil => exact kept
  | cons name rest ih =>
    obtain ⟨⟨slashless, fits⟩, whole_rest⟩ := List.forall_mem_cons.mp whole
    unfold run
    split
    · exact ih kept whole_rest
    · rename_i moves
      split
      · exact ih (invariant.parent kept) whole_rest
      · rename_i down
        have valid : Path.IsName name :=
          ⟨fun none => moves (.inl none), fun here => moves (.inr here), down, slashless⟩
        simp only
        cases asked : target? (Path.join path name) with
        | none => exact ih (invariant.join kept valid fits asked) whole_rest
        | some target =>
          cases met : seen.lookup (Path.join path name) with
          | none => exact ⟨kept, asked, whole_rest⟩
          | some before =>
            cases before with
            | none => exact trivial
            | some resolved => exact ih (known _ _ met) whole_rest

/-- Whether a resolution met no link that leads back to itself. -/
def Outcome.isResolved : Outcome → Bool
  | .resolved _ _ => true
  | .looping _ => false

/-- What a resolution keeps: unless it runs into a loop, the invariant holds of its path and of the
paths of the links it remembers. -/
def Outcome.Kept (holds : Text → Prop) : Outcome → Prop
  | .resolved path seen =>
    holds path ∧ ∀ link path, seen.lookup link = some (some path) → holds path
  | .looping _ => True

theorem resolveFrom_kept (invariant : Invariant target? holds fit) {links : Nat}
    {components : List Text}
    (known : ∀ link path, seen.lookup link = some (some path) → holds path)
    (kept : holds path) (whole : ∀ piece ∈ components, '/' ∉ piece ∧ fit piece) :
    (resolveFrom target? links seen path components).Kept holds := by
  fun_induction resolveFrom target? links seen path components with
  | case1 links seen path components ended stopped =>
    have stop := run_kept invariant known kept whole
    rw [stopped] at stop
    exact ⟨stop, known⟩
  | case2 | case3 | case4 => exact trivial
  | case5 seen path components directory link target rest stopped links start reached seen'
      followed ih ih' =>
    -- the target is resolved first, and what it keeps is what the pieces behind it start from
    have stop := run_kept invariant known kept whole
    rw [stopped] at stop
    obtain ⟨below, asked, whole_rest⟩ := stop
    have started : holds start := by
      unfold start
      split
      · exact invariant.root
      · exact below
    have pending : ∀ other path,
        List.lookup other ((link, none) :: seen) = some (some path) → holds path :=
      remembered_cons known link nofun
    have inner := ih pending started fun piece member =>
      ⟨Text.no_slash_of_mem_segments member, invariant.target asked piece member⟩
    rw [followed] at inner
    obtain ⟨kept', known'⟩ := inner
    have remembered : ∀ other path,
        List.lookup other ((link, some reached) :: seen') = some (some path) → holds path := by
      refine remembered_cons known' link ?_
      rintro _ ⟨⟩
      exact kept'
    exact ih' remembered kept' whole_rest

/-- Along the names of a link-free path a run never stops. -/
theorem run_names (free : LinkFree target? p) (seen : Seen) (rest : List Text) :
    run target? seen ['/'] (p.names ++ rest) = run target? seen p.toText rest := by
  induction free generalizing rest with
  | root => rfl
  | @child p name above valid plain ih =>
    have joined := PlainPath.join_toText (rooted_of_linkFree above) (names_of_linkFree above) valid
    rw [PlainPath.names_child, List.append_assoc, ih, List.singleton_append, run,
      if_neg (by simp [valid.nonempty, valid.not_here]), if_neg valid.not_up]
    simp only [joined, plain]

theorem segments_toText (free : LinkFree target? p) (below : p.names ≠ []) :
    Text.segments p.toText = [] :: p.names := by
  rw [PlainPath.toText_of_rooted (rooted_of_linkFree free), slashes_of_linkFree free]
  simp only [List.replicate_one, List.singleton_append, Text.segments_slash, List.cons.injEq,
    true_and]
  have plain := names_of_linkFree free
  exact Text.segments_ofSegments below fun name member => (plain name member).no_slash

theorem run_toText (free : LinkFree target? p) (seen : Seen) :
    run target? seen ['/'] (Text.segments p.toText) = .ended p.toText := by
  by_cases below : p.names = []
  · have root : p = ⟨1, []⟩ := by
      rw [← slashes_of_linkFree free, ← below]
    rw [root]
    rfl
  · have along := run_names free seen []
    rw [List.append_nil] at along
    rw [segments_toText free below, run, if_pos (.inl rfl), along, run]

/-- A link-free path resolves to itself, however many links are granted. -/
theorem resolve_of_linkFree (free : LinkFree target? p) (links : Nat) :
    resolve target? links p.toText = p.toText := by
  have absolute := PlainPath.isAbsolute_toText (rooted_of_linkFree free)
  simp only [resolve, absolute, if_true, resolveFrom.eq_def target? links, run_toText free]

/-- A link-free path needs no room for links. -/
theorem overflows_of_linkFree (free : LinkFree target? p) (links room : Nat) :
    overflows target? links room p.toText = false := by
  have absolute := PlainPath.isAbsolute_toText (rooted_of_linkFree free)
  simp only [overflows, absolute, if_true, overflowsFrom.eq_def target? links, run_toText free]

end ImportResolution.Canonical
