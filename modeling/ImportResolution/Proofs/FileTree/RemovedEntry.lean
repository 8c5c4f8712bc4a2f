import ImportResolution.Proofs.FileTree.AddedFile
import ImportResolution.Proofs.Host.Linkless

/-! Trees that lack an entry. When an entry that leads to a regular file is removed, a file or a
link itself, then the paths through it lead nowhere, and all others lead where they led. Before, the
paths through it led to that file, or nowhere as well, since nothing is below a file. -/
namespace ImportResolution

namespace FileTree

/-- Nothing stands any more in a place of the first tree. What is neither there nor below is as it
was. -/
structure Lacks (t t' : FileTree) (gone : Place) : Prop where
  vacant : t'.node? gone = none
  elsewhere : ∀ other, ¬ gone <:+ other → t'.node? other = t.node? other

/-- The entry of a directory leads to a regular file: it is one, or it is a link on which one is
reached. -/
inductive Opens (t : FileTree) (name : Text) (above : Place) : Place → Node → Prop where
  | file (held : t.node? (name :: above) = some node) (regular : node.isFile = true) :
      Opens t name above (name :: above) node
  | link (held : t.node? (name :: above) = some (.link target)) (regular : node.isFile = true)
      (reached : t.walk true links (if Path.isAbsolute target then [] else above)
        (Text.segments target) = .ok (place, node)) : Opens t name above place node

/-- What becomes of a run when an entry is removed: it stops as before, in a directory that is still
there, or it misses the entry. -/
inductive Stop.Lacks (t : FileTree) (follow : Bool) (name : Text) (above : Place) :
    Stop → Stop → Prop where
  | kept (stop : Stop)
      (aside : ∀ directory target rest, stop = .atLink directory target rest →
        ¬ name :: above <:+ directory) : Lacks t follow name above stop stop
  | entry (held : t.node? (name :: above) = some node)
      (ends : node.isFile = true ∨ follow = false) :
      Lacks t follow name above (.arrived (name :: above) node) (.failed .missing)
  | behind (held : t.node? (name :: above) = some node) (regular : node.isFile = true) :
      Lacks t follow name above (.failed .notDirectory) (.failed .missing)
  | link (held : t.node? (name :: above) = some (.link target)) (rest : List Text) :
      Lacks t follow name above (.atLink above target rest) (.failed .missing)

/-- What becomes of a look-up when an entry is removed that leads to a file: it ends as before, or
it leads nowhere and led to that file, or nowhere as well. -/
inductive Loses (place : Place) (node : Node) (first second : Except LookupFault (Place × Node)) :
    Prop where
  | kept (same : second = first)
  | lost (found : first = .ok (place, node)) (missed : second = .error .missing)
  | unseen (fault : LookupFault) (failed : first = .error fault)
      (blocked : fault = .notDirectory ∨ fault = .tooManyLinks) (missed : second = .error .missing)

variable {t t' : FileTree} {follow : Bool} {here above gone place : Place} {name : Text}
  {node stands : Node} {links : Nat} {components : List Text}

theorem lacks_erase (t : FileTree) (name : Text) (above : Place) :
    t.Lacks (t.erase (name :: above)) (name :: above) :=
  ⟨node?_erase t name above, fun _ => node?_erase_of_outside t⟩

theorem walk_append_of_arrived {front : List Text}
    (arrived : t.run true here front = .arrived place node) (links : Nat) (back : List Text) :
    t.walk true links here (front ++ back) = t.walk true links place back := by
  unfold walk
  rw [run_append, arrived]

/-- A regular file ends a walk. -/
theorem walk_at_file (held : t.node? here = some node) (regular : node.isFile = true)
    (links : Nat) (components : List Text) :
    t.walk true links here components
      = if components = [] then .ok (here, node) else .error .notDirectory := by
  unfold walk
  rw [run_at_closed held (Node.isDirectory_of_isFile regular)]
  by_cases last : components = []
  · simp only [if_pos last]
  · simp only [if_neg last]

/-- A walk that arrives at a file arrives there again, if no component follows, and otherwise fails;
in either case it may have run out of links before. -/
theorem walk_append_of_file {front : List Text} (regular : node.isFile = true)
    (reached : t.walk true links here front = .ok (place, node)) (links' : Nat)
    (back : List Text) :
    t.walk true links' here (front ++ back)
        = (if back = [] then .ok (place, node) else .error .notDirectory) ∨
      t.walk true links' here (front ++ back) = .error .tooManyLinks := by
  induction links using Nat.strongRecOn generalizing here front links' with
  | ind links ih =>
    unfold walk at reached
    cases stop : t.run true here front with
    | failed fault =>
      rw [stop] at reached
      cases reached
    | arrived place node =>
      rw [stop] at reached
      cases reached
      rw [walk_append_of_arrived stop]
      exact .inl (walk_at_file (node?_of_run stop) regular links' back)
    | atLink directory target rest =>
      rw [stop] at reached
      unfold walk
      rw [run_append, stop]
      cases links with
      | zero => cases reached
      | succ links =>
        cases links' with
        | zero => exact .inr rfl
        | succ links' =>
          simp only [← List.append_assoc]
          exact ih links (Nat.lt_succ_self links) reached links'

/-- A run that ends before the entry ends as before. -/
theorem lacks_failed (fault : LookupFault) :
    Stop.Lacks t follow name above (.failed fault) (.failed fault) :=
  .kept _ nofun

theorem lacks_arrived (place : Place) (node : Node) :
    Stop.Lacks t follow name above (.arrived place node) (.arrived place node) :=
  .kept _ nofun

/-- The step into the place of the entry misses it, and was the end of the run, or met a link. -/
theorem entry_lacks (held : t.node? (name :: above) = some stands)
    (closed : stands.isDirectory = false) (follow : Bool) (rest : List Text) :
    Stop.Lacks t follow name above
      ((Step.into (name :: above) (some stands)).stop t follow above name rest)
      (.failed .missing) := by
  have at_file (regular : stands.isFile = true) :
      Stop.Lacks t follow name above (t.run follow (name :: above) rest) (.failed .missing) := by
    rw [run_at_closed held closed]
    split
    · exact .entry held (.inl regular)
    · exact .behind held regular
  cases stands with
  | file _ | sealedFile => exact at_file rfl
  | directory => cases closed
  | link target =>
    simp only [Step.into, Step.stop]
    split
    · rename_i last
      exact .entry held (.inr (by simpa using last.2))
    · exact .link held rest

theorem run_lacks (lacks : t.Lacks t' (name :: above))
    (held : t.node? (name :: above) = some stands)
    (closed : stands.isDirectory = false) (follow : Bool) (aside : ¬ name :: above <:+ here)
    (components : List Text) :
    Stop.Lacks t follow name above (t.run follow here components)
      (t'.run follow here components) := by
  refine run_rel (Stop.Lacks t follow name above) (¬ name :: above <:+ ·) Stop.Lacks.kept
    (fun here aside => ?_) (fun here next rest aside => ?_) aside components
  · unfold run
    rw [lacks.elsewhere here aside]
    split
    · exact lacks_arrived here _
    · exact lacks_failed _
  · have kind : (t'.node? here).map Node.isDirectory = (t.node? here).map Node.isDirectory := by
      rw [lacks.elsewhere here aside]
    rcases step_alike kind next with ⟨same, back⟩ | ⟨into, into'⟩
    · exact .inl ⟨same, fun place on below => aside (below.trans (back place on).1)⟩
    by_cases there : next :: here = name :: above
    · obtain ⟨rfl, rfl⟩ := List.cons.inj there
      refine .inr ?_
      rw [run_cons, run_cons, into, into', lacks.vacant, held]
      exact entry_lacks held closed follow rest
    · have beyond : ¬ name :: above <:+ next :: here := fun below =>
        (List.suffix_cons_iff.mp below).elim (fun same => there same.symm) aside
      refine .inl ⟨by rw [into, into', lacks.elsewhere _ beyond], fun place on => ?_⟩
      rw [Step.eq_of_into (into.symm.trans on)]
      exact beyond

theorem opens_held (opens : t.Opens name above place node) :
    node.isFile = true ∧
      ∃ stands, t.node? (name :: above) = some stands ∧ stands.isDirectory = false := by
  cases opens with
  | file held regular => exact ⟨regular, _, held, Node.isDirectory_of_isFile regular⟩
  | link held regular reached => exact ⟨regular, _, held, rfl⟩

/-- A walk that met the entry, a link, went on along its target, to the file or nowhere. -/
theorem loses_link {target : Text} {rest : List Text} (regular : node.isFile = true)
    (reached : t.walk true links (if Path.isAbsolute target then [] else above)
      (Text.segments target) = .ok (place, node))
    (met : t.run true here components = .atLink above target rest)
    (missed : t'.run true here components = .failed .missing) (links' : Nat) :
    Loses place node (t.walk true links' here components) (t'.walk true links' here components) := by
  rw [walk_of_failed missed]
  unfold walk
  rw [met]
  cases links' with
  | zero => exact .unseen _ rfl (.inr rfl) rfl
  | succ links' =>
    rcases walk_append_of_file regular reached links' rest with ended | ended
    · by_cases last : rest = []
      · rw [if_pos last] at ended
        exact .lost ended rfl
      · rw [if_neg last] at ended
        exact .unseen _ ended (.inl rfl) rfl
    · exact .unseen _ ended (.inr rfl) rfl

theorem walk_loses (lacks : t.Lacks t' (name :: above)) (opens : t.Opens name above place node)
    (links : Nat) (aside : ¬ name :: above <:+ here) (components : List Text) :
    Loses place node (t.walk true links here components) (t'.walk true links here components) := by
  obtain ⟨regular, stands, held, closed⟩ := opens_held opens
  refine walk_rel (Loses place node) (¬ name :: above <:+ ·) (by simp) (.kept rfl)
    (fun here components aside => ?_) links aside components
  have stops := run_lacks lacks held closed true aside components
  generalize ended : t.run true here components = stop,
    ended' : t'.run true here components = stop' at stops
  cases stops with
  | kept _ aside =>
    rcases link_or_walk_eq (ended'.trans ended.symm) with ⟨directory, target, rest, linked⟩ | equal
    · have stopped := ended.symm.trans linked
      exact .inl ⟨directory, target, rest, stopped, stopped, aside _ _ _ stopped⟩
    · exact .inr fun links => .kept (equal links)
  | entry held ends =>
    cases opens with
    | file stands =>
      cases stands.symm.trans held
      exact .inr fun links => .lost (walk_of_arrived ended links) (walk_of_failed ended' links)
    | link stands =>
      cases stands.symm.trans held
      rcases ends with regular | unfollowed
      · cases regular
      · cases unfollowed
  | behind held regular =>
    exact .inr fun links => .unseen _ (walk_of_failed ended links) (.inl rfl)
      (walk_of_failed ended' links)
  | @link target held rest =>
    cases opens with
    | file stands =>
      cases stands.symm.trans held
      contradiction
    | link stands _ reached =>
      cases stands.symm.trans held
      exact .inr (loses_link regular reached ended ended')

/-- A path that leads to a file names an entry that does. -/
theorem opens_of_walk (named : t.walk false links here components = .ok (gone, stands))
    (reached : t.walk true links here components = .ok (place, node))
    (regular : node.isFile = true) :
    ∃ name above, gone = name :: above ∧ t.Opens name above place node := by
  refine walk_rel (fun first second => first = .ok (gone, stands) → second = .ok (place, node) →
      ∃ name above, gone = name :: above ∧ t.Opens name above place node)
    (fun _ => True) trivial nofun (fun here components _ => ?_)
    links trivial components named reached
  rcases run_unfollowed t here components with same | ⟨name, above, target, ended, ended'⟩
  · cases stop : t.run true here components with
    | failed fault =>
      refine .inr fun links _ reached => ?_
      rw [walk_of_failed stop] at reached
      cases reached
    | arrived place node =>
      refine .inr fun links named reached => ?_
      rw [walk_of_arrived (same.trans stop)] at named
      rw [walk_of_arrived stop] at reached
      cases named
      cases reached
      have held := node?_of_run stop
      cases gone with
      | nil =>
        cases held
        cases regular
      | cons name above => exact ⟨name, above, rfl, .file held regular⟩
    | atLink directory target rest =>
      exact .inl ⟨directory, target, rest, same.trans stop, rfl, trivial⟩
  · -- the link at the end is the entry, and the walk that follows it goes on along its target
    refine .inr fun links named reached => ?_
    rw [walk_of_arrived ended] at named
    cases named
    unfold walk at reached
    rw [ended'] at reached
    cases links with
    | zero => cases reached
    | succ links =>
      simp only [List.append_nil] at reached
      exact ⟨name, above, rfl, .link (node?_of_run ended) regular reached⟩

/-- Where the entry was that a path names, nothing is found. -/
theorem walk_vacant (lacks : t.Lacks t' (name :: above))
    (held : t.node? (name :: above) = some stands) (closed : stands.isDirectory = false)
    (aside : ¬ name :: above <:+ here)
    (named : t.walk false links here components = .ok (name :: above, stands)) :
    t'.walk false links here components = .error .missing := by
  refine walk_rel (fun first second => first = .ok (name :: above, stands) →
      second = .error .missing) (¬ name :: above <:+ ·) (by simp) nofun
    (fun here components aside => ?_) links aside components named
  have stops := run_lacks lacks held closed false aside components
  generalize ended : t.run false here components = stop,
    ended' : t'.run false here components = stop' at stops
  cases stops with
  | entry | behind | link => exact .inr fun links _ => walk_of_failed ended' links
  | kept _ aside =>
    cases stop with
    | failed fault =>
      refine .inr fun links named => ?_
      rw [walk_of_failed ended] at named
      cases named
    | arrived place node =>
      refine .inr fun links named => ?_
      rw [walk_of_arrived ended] at named
      cases named
      cases lacks.vacant.symm.trans (node?_of_run ended')
    | atLink directory target rest =>
      exact .inl ⟨directory, target, rest, rfl, rfl, aside directory target rest rfl⟩

/-- A walk that fails without following a link at its end fails for the same reason if it follows
it. -/
theorem walk_of_unfollowed {fault : LookupFault}
    (failed : t.walk false links here components = .error fault) :
    t.walk true links here components = .error fault := by
  refine walk_rel (fun first second => first = .error fault → second = .error fault)
    (fun _ => True) trivial id (fun here components _ => ?_) links trivial components failed
  rcases run_unfollowed t here components with same | ⟨name, above, target, ended, -⟩
  · rcases link_or_walk_eq same with ⟨directory, target, rest, stop⟩ | equal
    · exact .inl ⟨directory, target, rest, same.trans stop, stop, trivial⟩
    · exact .inr fun links failed => (equal links).symm.trans failed
  · refine .inr fun links failed => ?_
    rw [walk_of_arrived ended] at failed
    cases failed

end FileTree

namespace Host

/-- The second host is the first one without the entry that a path names. If that is a link, it is
the link that is gone. -/
structure Removes (h h' : Host) (path : Text) : Prop where
  entry : ∃ place node, h.lookup false path = .ok (place, node) ∧ h'.tree = h.tree.erase place
  directory : h'.directory? = h.directory?
  room : h'.room = h.room

variable {h h' : Host} {path other : Text} {place : Place} {node : Node}

/-- An absolute path leads where it led when an entry is removed that leads to a file, unless it led
there as well, or nowhere. -/
theorem lookup_loses (removes : h.Removes h' path) (absolute : Path.isAbsolute path = true)
    (reached : h.lookup true path = .ok (place, node)) (regular : node.isFile = true)
    (placed : Path.isAbsolute other = true) :
    FileTree.Loses place node (h.lookup true other) (h'.lookup true other) := by
  obtain ⟨gone, stands, named, without⟩ := removes.entry
  have admitted := admits_of_found reached
  rw [lookup_of_admits _ admitted absolute] at named reached
  obtain ⟨name, above, rfl, opens⟩ := FileTree.opens_of_walk named reached regular
  by_cases admitted : Admits other
  · rw [lookup_of_admits _ admitted placed, lookup_of_admits _ admitted placed, without]
    exact FileTree.walk_loses (FileTree.lacks_erase h.tree name above) opens _ (by simp) _
  · obtain ⟨fault, -, refused⟩ := lookup_refused admitted
    exact .kept ((refused h' true).trans (refused h true).symm)

/-- Nothing is found any more at a path whose entry is removed. -/
theorem lookup_removed (removes : h.Removes h' path) (absolute : Path.isAbsolute path = true)
    (reached : h.lookup true path = .ok (place, node)) (regular : node.isFile = true) :
    h'.lookup true path = .error .missing := by
  obtain ⟨gone, stands, named, without⟩ := removes.entry
  have admitted := admits_of_found reached
  rw [lookup_of_admits _ admitted absolute] at named reached
  obtain ⟨name, above, rfl, opens⟩ := FileTree.opens_of_walk named reached regular
  obtain ⟨-, stands', held, closed⟩ := FileTree.opens_held opens
  cases held.symm.trans (FileTree.node?_of_walk named)
  rw [lookup_of_admits _ admitted absolute, without]
  exact FileTree.walk_of_unfollowed
    (FileTree.walk_vacant (FileTree.lacks_erase h.tree name above) held closed (by simp) named)

end Host
end ImportResolution
