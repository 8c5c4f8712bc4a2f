import ImportResolution.Proofs.FileTree.Contents
import ImportResolution.Proofs.Module.Containment

/-! Inert manifests. A search asks a manifest for one thing only, the main file that it names. One
that cannot be read, is no JSON or names no file has none, so that it may as well be an empty
object: the search goes on with the index and probes the same paths. What differs is what is
reported on the way. A manifest that there is no room to read is not inert, whatever is wrong with
it. -/
namespace ImportResolution.Module

/-- The content of a file that holds an object without members. -/
def emptyObject : Content := .text "\x7b\x7d".toList

/-- A regular file that is inert as a manifest: it may not be read, it is no text, or it is read as
far as it goes and then is no JSON or no object, or names no main file by a text that is not
empty. -/
inductive Inert (room : Room) : Node → Prop where
  | unreadable : Inert room .sealedFile
  | undecodable (refused : Host.contentText content = .error fault) : Inert room (.file content)
  | unparsable (decoded : Host.contentText content = .ok text)
      (refused : room.parse text = .error (.content fault)) : Inert room (.file content)
  | noObject (decoded : Host.contentText content = .ok text) (parsed : room.parse text = .ok value)
      (other : ∀ members, value ≠ .obj members) : Inert room (.file content)
  | unnamed (decoded : Host.contentText content = .ok text)
      (parsed : room.parse text = .ok (.obj members))
      (empty : ∀ name, Json.find? members mainMember = some (.str name) → name = []) :
      Inert room (.file content)

/-- Two hosts that answer a search alike: paths have the same absolute forms, files and directories
are found at the same paths, and manifests name the same main files. -/
structure AskedAlike (h h' : Host) : Prop where
  absolute : h'.absolute = h.absolute
  isFile : h'.isFile = h.isFile
  isDirectory : h'.isDirectory = h.isDirectory
  main (manifest : Text) : mainOf (h'.readJson manifest) = mainOf (h.readJson manifest)

/-- Two trails that are alike but for the events on the way. -/
structure Trail.Alike (first second : Trail) : Prop where
  verdict : second.verdict = first.verdict
  candidates : second.candidates = first.candidates

variable {h h' : Host} {node : Node} {place : Place} {path specifier file directory : Text}
  {settings : Settings} {members : List (Text × Json)}

/-! ### Manifests -/

/-- An empty object is inert if there is room for one container. -/
theorem inert_emptyObject {room : Room} (one : 0 < room.containers) :
    Inert room (.file emptyObject) := by
  have decoded : Host.contentText emptyObject = .ok "\x7b\x7d".toList := rfl
  have parsed : room.parse "\x7b\x7d".toList = .ok (.obj []) := by
    obtain ⟨containers, outgrown, links⟩ := room
    cases containers with
    | zero => cases one
    | succ containers => rfl
  exact .unnamed decoded parsed nofun

theorem mainOf_of_unnamed
    (empty : ∀ name, Json.find? members mainMember = some (.str name) → name = []) :
    mainOf (.ok (.obj members)) = .ok none := by
  simp only [mainOf, Json.member?]
  split
  · rename_i named
    exact absurd (empty _ named) (List.cons_ne_nil _ _)
  · rfl

/-- No main file is named by an inert manifest. -/
theorem mainOf_inert (inert : Inert h.room node) (leads : h.lookup true path = .ok (place, node)) :
    mainOf (h.readJson path) = .ok none := by
  unfold Host.readJson Host.readText
  rw [leads]
  cases inert with
  | unreadable => rfl
  | undecodable refused => simp only [refused, Except.mapError_error, mainOf]
  | unparsable decoded refused => simp only [decoded, refused, Except.mapError_ok, mainOf]
  | @noObject _ _ value decoded parsed other =>
    simp only [decoded, parsed, Except.mapError_ok]
    cases value with
    | obj members => exact absurd rfl (other members)
    | _ => rfl
  | unnamed decoded parsed empty =>
    simp only [decoded, parsed, Except.mapError_ok]
    exact mainOf_of_unnamed empty

theorem mainOf_of_failed {fault : FileTree.LookupFault}
    (failed : h.lookup true path = .error fault) :
    mainOf (h.readJson path) = .ok none := by
  unfold Host.readJson Host.readText
  rw [failed]
  cases fault <;> rfl

/-- Inert manifests may as well be empty objects. -/
theorem askedAlike_of_refills (refills : h.Refills (Inert h.room) emptyObject h')
    (one : 0 < h.room.containers) : AskedAlike h h' := by
  refine ⟨Host.absolute_refills refills, funext (Host.isFile_refills refills),
    funext (Host.isDirectory_refills refills), fun manifest => ?_⟩
  have leads := Host.lookup_refills refills true manifest
  generalize before : h.lookup true manifest = led, after : h'.lookup true manifest = led' at leads
  cases leads with
  | failed fault => rw [mainOf_of_failed before, mainOf_of_failed after]
  | led place refilled =>
    cases refilled with
    | filled regular inert =>
      have empty : Inert h'.room (.file emptyObject) := inert_emptyObject (by rwa [refills.room])
      rw [mainOf_inert inert before, mainOf_inert empty after]
    | kept =>
      unfold Host.readJson Host.readText
      rw [before, after, refills.room]

/-! ### Loading -/

namespace Trail

theorem alike_refl (trail : Trail) : trail.Alike trail := ⟨rfl, rfl⟩

theorem alike_orElse {first first' : Trail} {second second' : Unit → Trail}
    (alike : first.Alike first') (next : (second ()).Alike (second' ())) :
    (first.orElse second).Alike (first'.orElse second') := by
  unfold orElse
  rw [alike.verdict]
  cases ended : first.verdict with
  | miss => exact ⟨next.verdict, by simp only [alike.candidates, next.candidates]⟩
  | _ => exact alike

theorem alike_after {trail trail' : Trail} (events events' : List Event)
    (alike : trail.Alike trail') : (trail.after events).Alike (trail'.after events') :=
  ⟨alike.verdict, alike.candidates⟩

theorem resolution_alike {trail trail' : Trail} (strategy : Strategy)
    (alike : trail.Alike trail') : trail'.resolution strategy = trail.resolution strategy := by
  simp only [resolution, alike.verdict, alike.candidates]

end Trail

theorem loadFile_asked (asked : AskedAlike h h') : loadFile h' = loadFile h := by
  have probed : probe h' = probe h := by
    funext path
    simp only [probe, asked.isFile]
  have endings (target : Text) (extensions : List Json) :
      probeEndings h' target extensions = probeEndings h target extensions := by
    induction extensions with
    | nil => rfl
    | cons ending rest ih => simp only [probeEndings, probed, ih]
  funext extensions target
  simp only [loadFile, probed, endings]

theorem loadIndex_asked (asked : AskedAlike h h') : loadIndex h' = loadIndex h := by
  funext extensions directory
  simp only [loadIndex, loadFile_asked asked]

theorem loadMain_asked (asked : AskedAlike h h') : loadMain h' = loadMain h := by
  funext extensions directory main
  simp only [loadMain, loadFile_asked asked, loadIndex_asked asked]

/-- A directory is loaded alike. Only here is a manifest read, and what is wrong with it is
reported. -/
theorem loadDirectory_asked (asked : AskedAlike h h') (extensions : List Json) (directory : Text) :
    (loadDirectory h extensions directory).Alike (loadDirectory h' extensions directory) := by
  unfold loadDirectory
  simp only [asked.isDirectory, asked.isFile, asked.main, loadIndex_asked asked,
    loadMain_asked asked]
  split
  · exact Trail.alike_refl _
  split
  · exact Trail.alike_refl _
  · exact Trail.alike_after _ _ (Trail.alike_refl _)

theorem load_asked (asked : AskedAlike h h') (extensions : List Json) (target : Text) :
    (load h extensions target).Alike (load h' extensions target) := by
  unfold load
  rw [loadFile_asked asked]
  exact Trail.alike_orElse (Trail.alike_refl _) (loadDirectory_asked asked extensions target)

theorem loadPackage_asked (asked : AskedAlike h h') (extensions : List Json) (name : Text)
    (directories : List Text) :
    (loadPackage h extensions name directories).Alike
      (loadPackage h' extensions name directories) := by
  induction directories with
  | nil => exact Trail.alike_refl _
  | cons directory rest ih => exact Trail.alike_orElse (load_asked asked extensions _) ih

/-! ### Searching -/

theorem search_asked (asked : AskedAlike h h') (options : Options) (specifier directory : Text) :
    (search h' options specifier directory).outcome
      = (search h options specifier directory).outcome := by
  unfold search
  split
  · exact Trail.resolution_alike .absolute (load_asked asked _ _)
  split
  · exact Trail.resolution_alike .relative (load_asked asked _ _)
  rw [searchPath_congr fun path _ => congrFun asked.absolute path]
  split
  · rfl
  · exact Trail.resolution_alike .package (loadPackage_asked asked _ _ _)

/-- Hosts that answer a search alike give a specifier the same answer, whatever the options are. -/
theorem resolve_asked (asked : AskedAlike h h') (specifier file : Text)
    (members : List (Text × Json)) :
    (resolve h' specifier file members).outcome = (resolve h specifier file members).outcome := by
  unfold resolve
  cases Options.ofMembers members with
  | error fault => rfl
  | ok options =>
    simp only [outcome_containing]
    congr 1
    unfold resolveWith
    rw [asked.absolute]
    split
    · rfl
    split
    · rfl
    · exact search_asked asked options _ _

/-- Under settings every specifier has an answer for which there is room. -/
theorem exists_answer (set : settings.SetBy members)
    (fits : ∀ descent, ¬ Cramped h settings specifier file descent) :
    ∃ answer, (resolve h specifier file members).outcome = .ok answer := by
  simp only [resolve, ofMembers_of_setBy set, outcome_containing]
  by_cases stranded : Stranded h settings specifier file
  · exact ⟨.missing [], by rw [resolveWith_stranded stranded]; rfl⟩
  · cases core : isCore specifier with
    | true => exact ⟨.coreModule, by simp [resolveWith, core, Traced.answer, contained]⟩
    | false =>
      obtain ⟨answer, answered, -⟩ := resolveWith_exhausts core stranded fits
      exact ⟨answer, by rw [answered]; rfl⟩

end ImportResolution.Module
