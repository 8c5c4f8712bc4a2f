import ImportResolution.Proofs.Alias.Precedence
import ImportResolution.Proofs.Configuration.Decision
import ImportResolution.Resolution

/-! One entry or many. An entry that stands alone, among the options of the plugin or as a given
configuration, means what a list of it means. Every listed item gives one entry, whatever it is: a
value that counts as false is no list that is empty, but gives what a missing entry gives. -/
namespace ImportResolution

open ImportResolution.Configuration

/-- The items that a listed plugin is given: those of an array, any other value by itself, and none
where it is listed by its name alone. -/
def Configuration.itemsOf : Json → List Json
  | .arr (_ :: .arr items :: _) => items
  | .arr (_ :: item :: _) => [item]
  | _ => []

namespace AliasEntry

variable {item : Json}

/-- The members of an item that are none of an alias, in order. What is no object has none. -/
def otherMembers : Json → List (Text × Json)
  | .obj members =>
    members.filter fun member => member.1 ≠ signMember ∧ member.1 ≠ suffixMember
  | _ => []

/-- Entries for a list of items: one for each of them, in order, or one that stands for none. Every
entry has a sign, and for its options what its item holds besides. -/
structure Cover (items : List Json) (entries : List AliasEntry) : Prop where
  length : entries.length = max 1 items.length
  signed : ∀ entry ∈ entries, entry.sign ≠ []
  options : ∀ (place : Nat) (entry : AliasEntry), entries[place]? = some entry →
    entry.options = (items[place]?.map otherMembers).getD []

/-- A value that counts as false gives what a missing entry gives. -/
theorem ofJson_of_false (blank : item.truthy = false) : ofJson item = ofMembers [] := by
  cases item with
  | obj members =>
    obtain rfl : members = [] := by simpa [Json.truthy] using blank
    rfl
  | _ => rfl

/-- That options which count as false are dropped makes no difference to the entries. -/
theorem ofItems_entriesOf (listed : Json) :
    ofItems (entriesOf listed) = ofItems (itemsOf listed) := by
  match listed with
  | .arr (_ :: option :: _) =>
    by_cases held : option.truthy = true
    · cases option <;> simp [entriesOf, itemsOf, held]
    · have blank : option.truthy = false := by simpa using held
      cases option with
      | arr items =>
        obtain rfl : items = [] := by simpa [Json.truthy] using blank
        rfl
      | _ => simp [entriesOf, itemsOf, blank, ofItems, ofJson_of_false blank]
  | .arr [] | .arr [_] => rfl
  | .null | .bool _ | .int _ | .float _ | .str _ | .obj _ => rfl

theorem options_ofJson (item : Json) : (ofJson item).options = otherMembers item := by
  cases item <;> rfl

/-- The entries of listed items cover them. -/
theorem cover_ofItems (items : List Json) : Cover items (ofItems items) := by
  cases items with
  | nil =>
    refine ⟨rfl, ?_, ?_⟩
    · intro entry member
      obtain rfl := List.mem_singleton.mp member
      exact sign_ofMembers_ne_nil []
    · intro place entry held
      cases place with
      | zero =>
        cases held
        rfl
      | succ place => cases held
  | cons first others =>
    refine ⟨by simp [ofItems], ?_, ?_⟩
    · intro entry member
      obtain ⟨item, -, rfl⟩ := List.mem_map.mp member
      exact sign_ofJson_ne_nil item
    · intro place entry held
      simp only [ofItems, List.getElem?_map] at held
      obtain ⟨item, stands, rfl⟩ := Option.map_eq_some_iff.mp held
      rw [stands]
      exact options_ofJson item

theorem ofConfiguration_items (items : List Json) :
    ofConfiguration (.arr items) = .ok (ofItems items) := rfl

end AliasEntry

/-- A member is found under its name exactly if there is one of that name. -/
theorem Json.isSome_find? {members : List (Text × Json)} {name : Text} :
    (find? members name).isSome = true ↔ name ∈ members.map (·.1) := by
  induction members with
  | nil => simp [find?]
  | cons member rest ih =>
    by_cases same : member.1 = name
    · simp [find?, same]
    · simp [find?, same, ih, Ne.symm same]

namespace Request

open AliasEntry

variable {members : List (Text × Json)}

/-- An object with a sign or a suffix lists aliases. -/
theorem kind_of_keyed (keyed : signMember ∈ members.map (·.1) ∨ suffixMember ∈ members.map (·.1)) :
    ConfigurationKind.of (.obj members) = .aliases := by
  simp only [← Json.isSome_find?] at keyed
  simp [ConfigurationKind.of, keyed]

/-- A shorthand for one entry changes nothing. Options of a plugin that are no array mean what the
array of them means, even if they count as false; an object with a sign or a suffix is answered like
the array of it; and a configuration that lists the plugin, in whichever form, gives an entry for
each item that it lists, or one if it lists none. -/
theorem shorthand_transparent :
    (∀ (name : Text) (option : Json), (∀ items, option ≠ .arr items) →
      ofConfiguration (.arr (entriesOf (.arr [.str name, option])))
        = ofConfiguration (.arr (entriesOf (.arr [.str name, .arr [option]])))) ∧
    (∀ (h : Host) (request : Request) (members : List (Text × Json)),
      signMember ∈ members.map (·.1) ∨ suffixMember ∈ members.map (·.1) →
      resolve h { request with configuration := .obj members }
        = resolve h { request with configuration := .arr [.obj members] }) ∧
    (∀ configuration listed, ListsFirst configuration listed →
      plugin? configuration = some listed ∧ ∃ entries,
        ofConfiguration (.arr (entriesOf listed)) = .ok entries ∧
          Cover (itemsOf listed) entries) := by
  refine ⟨?_, ?_, ?_⟩
  · intro name option single
    have alone : itemsOf (.arr [.str name, option]) = [option] := by
      cases option with
      | arr items => exact absurd rfl (single items)
      | _ => rfl
    rw [ofConfiguration_items, ofConfiguration_items, ofItems_entriesOf, ofItems_entriesOf, alone]
    rfl
  · intro h request members keyed
    have object := kind_of_keyed keyed
    have array : ConfigurationKind.of (.arr [.obj members]) = .aliases := rfl
    simp only [resolve, object, array]
    rfl
  · intro configuration listed lists
    refine ⟨listsFirst_iff.mp lists, _, ofConfiguration_items _, ?_⟩
    rw [ofItems_entriesOf]
    exact cover_ofItems _

/-- A tree with one file, in a directory that aliases can lead to. -/
def suffixedTree : Host :=
  ⟨⟨[(Place.ofPath "/src/x.js".toList, .file (.text [])),
    (Place.ofPath "/src".toList, .directory)]⟩, some "/".toList, .usual⟩

/-- The alias that leads to that directory. -/
def suffixedMembers : List (Text × Json) := [(suffixMember, .str "src".toList)]

/-- A request for that file under a configuration. -/
def suffixedRequest (configuration : Json) : Request :=
  ⟨"~/x".toList, "/a.js".toList, configuration, [], none⟩

/-- The plugin as it is listed with an item that is missing and one that has options. -/
def mixedListing : Json :=
  .arr [.str pluginName,
    .arr [.null, .obj [("paths".toList, .null), (signMember, .str "@".toList)]]]

/-- A configuration that lists another plugin first. -/
def mixedConfiguration : Json :=
  .obj [(pluginsMember, .arr [.str "other".toList, mixedListing])]

/-- Zero stands for an entry as an array of it does, an object for an alias that is found, and a
missing item for an entry before the next one. -/
theorem shorthand_transparent_mixed :
    ofConfiguration (.arr (entriesOf (.arr [.str pluginName, .int 0])))
        = ofConfiguration (.arr (entriesOf (.arr [.str pluginName, .arr [.int 0]]))) ∧
      (resolve suffixedTree (suffixedRequest (.arr [.obj suffixedMembers]))).outcome
        = .ok ⟨.file "/src/x.js".toList, .aliased,
            ["/src/x".toList, "/src/x.mjs".toList, "/src/x.js".toList]⟩ ∧
      ListsFirst mixedConfiguration mixedListing ∧
      ∃ first second, ofConfiguration (.arr (entriesOf mixedListing)) = .ok [first, second] ∧
        first.options = [] ∧ second.options = [("paths".toList, .null)] := by
  obtain ⟨single, object, listing⟩ := shorthand_transparent
  have lists : ListsFirst mixedConfiguration mixedListing := listsFirst_iff.mpr rfl
  obtain ⟨-, entries, normalized, covered⟩ := listing _ _ lists
  have two : entries.length = 2 := covered.length
  have alike : resolve suffixedTree (suffixedRequest (.obj suffixedMembers))
      = resolve suffixedTree (suffixedRequest (.arr [.obj suffixedMembers])) :=
    object suffixedTree (suffixedRequest .null) suffixedMembers (.inr (by decide))
  match entries, two, normalized, covered with
  | [first, second], _, normalized, covered =>
    refine ⟨single _ _ (by simp), ?_, lists, first, second, normalized,
      covered.options 0 first rfl, covered.options 1 second rfl⟩
    rw [← alike]
    decide +kernel

end Request
end ImportResolution
