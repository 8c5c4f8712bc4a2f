import ImportResolution.Alias.Entry
import ImportResolution.Path

/-!
Applying aliases: the first entry whose sign stands at the start of a specifier turns it into an
absolute path below the root.
-/
namespace ImportResolution

/-- Whether a sign stands at the start of a specifier and is all of it or followed by a slash. The
empty sign never does. -/
def hasSign (specifier sign : Text) : Bool :=
  !sign.isEmpty && (specifier == sign || (sign ++ ['/']).isPrefixOf specifier)

/-- What is left of a specifier after its sign and the slashes that follow. -/
def afterSign (specifier sign : Text) : Text :=
  Text.dropSlashes (specifier.drop (sign.length + 1))

/-- The path below the root that a specifier with a sign means; one without it is unchanged. -/
def belowRoot (specifier sign suffix : Text) : Text :=
  if !hasSign specifier sign then specifier
  else
    let rest := afterSign specifier sign
    if suffix.isEmpty then (if rest.isEmpty then Path.here else rest)
    else if rest.isEmpty then suffix
    else suffix ++ '/' :: rest

namespace AliasEntry

/-- Whether the entry applies to a specifier. -/
def applies (entry : AliasEntry) (specifier : Text) : Bool := hasSign specifier entry.sign

/-- The path below the root that the entry gives a specifier. -/
def rewrite (entry : AliasEntry) (specifier : Text) : Text :=
  belowRoot specifier entry.sign entry.suffix

/-- The absolute path that the entry gives a specifier. Slashes at the start of the path below the
root do not lead out of it. -/
def anchored (entry : AliasEntry) (root specifier : Text) : Text :=
  Path.normalize (Path.join root (Text.dropSlashes (entry.rewrite specifier)))

end AliasEntry

/-- What becomes of a specifier: the specifier to search for, the options of the search and the
entry that applied, with its index, if one did. -/
structure Application where
  specifier : Text
  options : List (Text × Json)
  entry? : Option (Nat × AliasEntry)
  deriving Repr

namespace Application

/-- Applies the first entry that applies. `index` entries have been passed over, the last of them
with the given options, which stay in force if no entry applies. -/
def ofEntriesFrom (specifier root : Text) (index : Nat) (options : List (Text × Json)) :
    List AliasEntry → Application
  | [] => ⟨specifier, options, none⟩
  | entry :: rest =>
    if entry.applies specifier then
      ⟨entry.anchored root specifier, entry.options, some (index, entry)⟩
    else ofEntriesFrom specifier root (index + 1) entry.options rest

/-- Applies the first entry that applies to a specifier. -/
def ofEntries (specifier : Text) (entries : List AliasEntry) (root : Text) : Application :=
  ofEntriesFrom specifier root 0 [] entries

end Application
end ImportResolution
