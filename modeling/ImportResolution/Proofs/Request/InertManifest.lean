import ImportResolution.Proofs.Module.InertManifest
import ImportResolution.Proofs.Request.InEffect

/-! Requests among inert manifests. A manifest that is damaged, or names no main file, changes no
answer: a specifier is answered as if the manifest were an empty object, with the same probes, be it
searched for as it stands or rewritten by listed aliases. -/
namespace ImportResolution.Request

variable {h h' : Host} {request : Request}

/-- The aliases that a request lists are in effect in both trees. -/
theorem aliases_refills {kind : Node → Prop} (refills : h.Refills kind Module.emptyObject h')
    (listed : ConfigurationKind.of request.configuration = .aliases) :
    request.aliases h' = request.aliases h := by
  simp only [aliases, Host.rootOf, Host.startingPoint_refills refills, listed]

/-- Inert manifests are ignored. Where any number of them are filled with empty objects, every
specifier gets the same answer, with the same probes, under any options and under any listed
aliases; and under options that are lists of texts there is an answer, if there is room to search
for it. -/
theorem inert_manifests_ignored
    (refills : h.Refills (Module.Inert h.room) Module.emptyObject h')
    (one : 0 < h.room.containers) :
    (∀ specifier file members,
      (Module.resolve h' specifier file members).outcome
          = (Module.resolve h specifier file members).outcome ∧
        ∀ settings : Module.Settings, settings.SetBy members →
          (∀ descent, ¬ Module.Cramped h settings specifier file descent) →
          ∃ answer, (Module.resolve h specifier file members).outcome = .ok answer) ∧
    ∀ request : Request, ConfigurationKind.of request.configuration = .aliases →
      (resolve h' request).outcome = (resolve h request).outcome ∧
        ∀ (inEffect : Aliases) (settings : Module.Settings), request.aliases h = .ok inEffect →
          settings.SetBy (request.applied inEffect).options →
          (∀ descent, ¬ Module.Cramped h settings (request.applied inEffect).specifier request.file
            descent) →
          ∃ answer, (resolve h request).outcome = .ok answer := by
  have asked := Module.askedAlike_of_refills refills one
  constructor
  · intro specifier file members
    exact ⟨Module.resolve_asked asked specifier file members,
      fun settings set fits => Module.exists_answer set fits⟩
  · intro request listed
    constructor
    · rw [outcome_resolve, outcome_resolve, aliases_refills refills listed]
      apply Except.bind_congr
      intro inEffect _
      rw [Module.resolve_asked asked]
    · intro inEffect settings available set fits
      rw [outcome_resolve, available]
      obtain ⟨answer, answered⟩ := @Module.exists_answer h (request.applied inEffect).specifier
        request.file settings _ set fits
      exact ⟨_, Except.map_eq_ok.mpr ⟨answer, answered, rfl⟩⟩

/-- A package behind a link, and another one of that name further up. Their manifests hold the given
nodes. -/
def stored (linked above : Node) : Host :=
  ⟨⟨[(Place.ofPath "/p/store/package.json".toList, linked),
    (Place.ofPath "/p/store".toList, .directory),
    (Place.ofPath "/p/node_modules/lib".toList, .link "../store".toList),
    (Place.ofPath "/p/node_modules".toList, .directory),
    (Place.ofPath "/p".toList, .directory),
    (Place.ofPath "/node_modules/lib/package.json".toList, above),
    (Place.ofPath "/node_modules/lib/index.js".toList, .file (.text [])),
    (Place.ofPath "/node_modules/lib".toList, .directory),
    (Place.ofPath "/node_modules".toList, .directory)]⟩, some "/".toList, .usual⟩

theorem refills_stored {kind : Node → Prop} {linked linked' above above' : Node}
    (first : linked.Refilled kind Module.emptyObject linked')
    (second : above.Refilled kind Module.emptyObject above') :
    (stored linked above).Refills kind Module.emptyObject (stored linked' above') := by
  have entries : List.Forall₂
      (fun entry entry' => entry'.1 = entry.1 ∧
        entry.2.Refilled kind Module.emptyObject entry'.2)
      (stored linked above).tree.nodes (stored linked' above').tree.nodes := by
    refine .cons ⟨rfl, first⟩ (.cons ⟨rfl, .kept _⟩ (.cons ⟨rfl, .kept _⟩ (.cons ⟨rfl, .kept _⟩
      (.cons ⟨rfl, .kept _⟩ (.cons ⟨rfl, second⟩ ?_)))))
    exact List.forall₂_same.mpr fun entry _ => ⟨rfl, .kept _⟩
  exact ⟨FileTree.refills_of_entries entries, rfl, rfl⟩

/-- The packages with a manifest that is no text and one that may not be read. -/
def damaged : Host := stored (.file (.octets [0x7b, 0xff])) .sealedFile

/-- The packages with manifests that hold empty objects. -/
def emptied : Host := stored (.file Module.emptyObject) (.file Module.emptyObject)

/-- Options with one ending only. -/
def oneEnding : List (Text × Json) := [("extensions".toList, .str ".js".toList)]

/-- A request for the package by its place below the root. -/
def aliasedPackage : Request :=
  ⟨"~/p/node_modules/lib".toList, "/p/a.js".toList, .arr [.obj oneEnding], [], some "/".toList⟩

/-- The damaged manifests are ignored: where the package is found first it has no index, and further
up it is loaded through its index. Its place alone leads to no file. -/
theorem inert_manifests_ignored_stored :
    damaged.Refills (Module.Inert damaged.room) Module.emptyObject emptied ∧
      (Module.resolve emptied "lib".toList "/p/a.js".toList oneEnding).outcome
        = (Module.resolve damaged "lib".toList "/p/a.js".toList oneEnding).outcome ∧
      (Module.resolve damaged "lib".toList "/p/a.js".toList oneEnding).outcome
        = .ok ⟨.file "/node_modules/lib/index.js".toList, .package,
            ["/p/node_modules/lib".toList, "/p/node_modules/lib.js".toList,
              "/p/node_modules/lib/index".toList, "/p/node_modules/lib/index.js".toList,
              "/node_modules/lib".toList, "/node_modules/lib.js".toList,
              "/node_modules/lib/index".toList, "/node_modules/lib/index.js".toList]⟩ ∧
      (resolve emptied aliasedPackage).outcome = (resolve damaged aliasedPackage).outcome ∧
      ∃ answer, (resolve damaged aliasedPackage).outcome = .ok answer ∧ answer.found = false := by
  have cut : Host.contentText (.octets [0x7b, 0xff]) = .error ⟨.startByte, 0xff, 1, 1⟩ := by
    decide +kernel
  have refills : damaged.Refills (Module.Inert damaged.room) Module.emptyObject emptied :=
    refills_stored (.filled rfl (.undecodable cut)) (.filled rfl .unreadable)
  have spacious : damaged.Spacious := by decide +kernel
  obtain ⟨searched, aliased⟩ := inert_manifests_ignored refills (by decide)
  obtain ⟨same, answered⟩ := aliased aliasedPackage rfl
  have set : Module.Settings.SetBy ⟨[".js".toList], [Module.Options.defaultModuleDirectory], []⟩
      oneEnding :=
    ⟨.one _ (by decide), .absent, .absent⟩
  have located : damaged.rootOf (some "/".toList) = .ok "/".toList := by decide +kernel
  have available : aliasedPackage.aliases damaged
      = .ok ⟨[AliasEntry.ofMembers oneEnding], "/".toList⟩ := by
    unfold aliases aliasedPackage
    rw [located]
    rfl
  obtain ⟨answer, answered⟩ := answered _ _ available set
    fun _ cramped => Module.Plan.fits_of_spacious spacious _ cramped.full
  refine ⟨refills, (searched _ _ _).1, by decide +kernel, same, answer, answered, ?_⟩
  have missed : (resolve damaged aliasedPackage).outcome.map (·.found) = .ok false := by
    decide +kernel
  rw [answered] at missed
  exact Except.ok.inj missed

/-- A file whose text is no JSON, however much room there is. -/
def NoJson (node : Node) : Prop :=
  ∃ content text fault, node = .file content ∧ Host.contentText content = .ok text ∧
    Json.parse text = .error fault

/-- The package behind the link with a manifest that opens a thousand brackets. -/
def bracketed : Host :=
  stored (.file (.text (List.replicate 1000 '['))) (.file Module.emptyObject)

/-- Not all manifests are inert that are no JSON: one of a thousand brackets keeps the search from
the package further up. -/
theorem brackets_not_ignored : ¬ ∀ (h h' : Host) (specifier file : Text),
    h.Refills NoJson Module.emptyObject h' →
      (Module.resolve h' specifier file []).outcome
        = (Module.resolve h specifier file []).outcome := by
  intro ignored
  have noJson : NoJson (.file (.text (List.replicate 1000 '['))) := by
    refine ⟨_, List.replicate 1000 '[', _, rfl, ?_, Json.parse_brackets 1000⟩
    decide +kernel
  have refills : bracketed.Refills NoJson Module.emptyObject emptied :=
    refills_stored (.filled rfl noJson) (.kept _)
  have same := ignored bracketed emptied "lib".toList "/p/a.js".toList refills
  have refused : (Module.resolve bracketed "lib".toList "/p/a.js".toList []).outcome
      = .error (.exhausted (.container .array)) := by
    decide +kernel
  have answered : (Module.resolve emptied "lib".toList "/p/a.js".toList []).outcome.map (·.path?)
      = .ok (some "/node_modules/lib/index.js".toList) := by
    decide +kernel
  rw [same, refused] at answered
  cases answered

end ImportResolution.Request
