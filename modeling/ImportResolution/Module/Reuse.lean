import ImportResolution.Module.Resolver

/-!
Resolvers that are used more than once. A resolver is made with its options and then asked for one
specifier after the other. The paths that it probes go to the list that it has at hand, which is a
new one for every specifier; an answer holds no copy of the list but its place. A fault leaves the
list with the paths that were probed up to it.
-/
namespace ImportResolution.Module

/-- A resolver: its options, all lists of paths that have been made, the place of the one at hand,
and what has been reported. -/
structure Resolver where
  options : Options
  lists : List (List Text)
  current : Nat
  log : List Event
  deriving Repr

/-- An answer of a resolver, with the place of the list of the paths that were probed for it. -/
structure Reply where
  target : Target
  strategy : Strategy
  candidates : Nat
  deriving DecidableEq, Repr

namespace Resolver

/-- A resolver that has not been asked for anything. -/
def new (options : Options) : Resolver := ⟨options, [[]], 0, []⟩

/-- Makes one more list, without paths. -/
def addList (r : Resolver) : Resolver := { r with lists := r.lists ++ [[]] }

/-- Takes the list at a place to hand. -/
def turnTo (r : Resolver) (place : Nat) : Resolver := { r with current := place }

/-- Adds a path to the list at hand. -/
def note (r : Resolver) (path : Text) : Resolver :=
  { r with lists := r.lists.modify r.current (· ++ [path]) }

/-- Reports events. -/
def report (r : Resolver) (events : List Event) : Resolver := { r with log := r.log ++ events }

/-- An answer, with what its list holds now. -/
def read (r : Resolver) (reply : Reply) : Resolution :=
  ⟨reply.target, reply.strategy, r.lists.getD reply.candidates []⟩

end Resolver

/-- A use of a resolver, which may change it. A fault ends the use, and the changes up to it
stay. -/
abbrev Use (α : Type) := ExceptT Fault (StateM Resolver) α

namespace Use

/-- Uses a resolver. -/
def on {α : Type} (use : Use α) (r : Resolver) : Except Fault α × Resolver := (use.run.run r).run

/-- Makes a list without paths, and gives its place. -/
def newList : Use Nat := modifyGet fun r => (r.lists.length, r.addList)

/-- The first search, and the second one if the first found nothing. -/
def orElse (first second : Use (Option Text)) : Use (Option Text) := do
  match ← first with
  | some path => return some path
  | none => second

/-- Probes one path. It is noted whether it is a file or not. -/
def probe (h : Host) (path : Text) : Use (Option Text) := do
  modify (·.note path)
  return if h.isFile path then some path else none

/-- Probes a target with each of the endings. -/
def probeEndings (h : Host) (target : Text) : List Json → Use (Option Text)
  | [] => return none
  | ending :: rest => do
    let ending ← itemText ending
    orElse (probe h (target ++ ending)) (probeEndings h target rest)

/-- Loads a target as a file. -/
def loadFile (h : Host) (target : Text) : Use (Option Text) :=
  orElse (probe h target) do probeEndings h target (← get).options.extensions

/-- Loads the index of a directory. -/
def loadIndex (h : Host) (directory : Text) : Use (Option Text) :=
  loadFile h (Path.join directory indexName)

/-- Reads the name of the main file from a manifest. -/
def readMain (h : Host) (manifest : Text) : Use (Option Text) := do
  let read := h.readJson manifest
  modify (·.report (manifestEvents manifest read))
  mainOf read

/-- Loads a directory through its main file: as a file, or through its index if it is another
directory. -/
def loadMain (h : Host) (directory main : Text) : Use (Option Text) :=
  let target := Path.normalize (Path.join directory main)
  orElse (loadFile h target) (if target = directory then return none else loadIndex h target)

/-- Loads a target as a directory. -/
def loadDirectory (h : Host) (directory : Text) : Use (Option Text) :=
  if !h.isDirectory directory then return none
  else
    let manifest := Path.join directory manifestName
    if !h.isFile manifest then loadIndex h directory
    else do
      match ← readMain h manifest with
      | none => loadIndex h directory
      | some main => orElse (loadMain h directory main) (loadIndex h directory)

/-- Loads a target, as a file or as a directory. -/
def load (h : Host) (target : Text) : Use (Option Text) :=
  orElse (loadFile h target) (loadDirectory h target)

/-- Loads a package from the first of the directories that has it. -/
def loadPackage (h : Host) (name : Text) : List Text → Use (Option Text)
  | [] => return none
  | directory :: rest => orElse (load h (Path.join directory name)) (loadPackage h name rest)

/-- Answers what was found on a way, with the list at hand. -/
def reply (strategy : Strategy) (search : Use (Option Text)) : Use Reply := do
  let found? ← search
  let list := (← get).current
  return match found? with
    | some path => ⟨.file path, strategy, list⟩
    | none => ⟨.missing, .notFound, list⟩

/-- Searches for a specifier that is imported from a directory. -/
def search (h : Host) (specifier directory : Text) : Use Reply :=
  if Path.isAbsolute specifier then
    reply .absolute (load h (Path.normalize specifier))
  else if isRelative specifier then
    reply .relative (load h (Path.normalize (Path.join directory specifier)))
  else
    reply .package do loadPackage h specifier (← searchPath h (← get).options directory)

/-- Resolves a specifier that is imported from a file. The answer for a core module does not refer
to the list at hand, but to one of its own. -/
def resolve (h : Host) (specifier file : Text) : Use Reply := do
  let list ← newList
  modify (·.turnTo list)
  if isCore specifier then return ⟨.coreModule, .builtin, ← newList⟩
  else search h specifier (Path.dirname (← h.absolute file))

end Use

namespace Resolver

/-- Asks a resolver for a specifier that is imported from a file. -/
def ask (h : Host) (r : Resolver) (specifier file : Text) : Except Fault Reply × Resolver :=
  (Use.resolve h specifier file).on r

/-- The resolver after it was asked for some specifiers, whatever it answered. -/
def after (h : Host) (r : Resolver) : List (Text × Text) → Resolver
  | [] => r
  | (specifier, file) :: rest => (r.ask h specifier file).2.after h rest

/-- Asks a resolver for one specifier after the other, up to the first fault. -/
def askEach (h : Host) (r : Resolver) : List (Text × Text) → Except Fault (List Reply) × Resolver
  | [] => (.ok [], r)
  | (specifier, file) :: rest =>
    match r.ask h specifier file with
    | (.error fault, r) => (.error fault, r)
    | (.ok reply, r) =>
      let (replies, r) := r.askEach h rest
      (replies.map (reply :: ·), r)

end Resolver

/-- Resolves one specifier after the other with the same resolver. The answers are read at the
end. -/
def resolveEach (h : Host) (options : Options) (calls : List (Text × Text)) :
    Except Fault (List Resolution) :=
  let (replies, r) := (Resolver.new options).askEach h calls
  replies.map (·.map r.read)

end ImportResolution.Module
