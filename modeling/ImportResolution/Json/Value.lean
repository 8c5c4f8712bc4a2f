import ImportResolution.Number.Binary64

/-!
JSON values. Integers have any size and are kept apart from binary numbers; the members of an
object stand in the order in which their names were first written.
-/
namespace ImportResolution

/-- A JSON value. -/
inductive Json where
  | null
  | bool (value : Bool)
  | int (value : Int)
  | float (value : Binary64)
  | str (value : Text)
  | arr (items : List Json)
  | obj (members : List (Text × Json))
  deriving Inhabited, Repr

namespace Json

/-- Sets a member: a name that is there already keeps its place and takes the new value. -/
def put (members : List (Text × Json)) (name : Text) (value : Json) : List (Text × Json) :=
  match members with
  | [] => [(name, value)]
  | (n, v) :: rest => if n = name then (n, value) :: rest else (n, v) :: put rest name value

/-- The object with the given members; of a repeated name the first place and the last value
count. -/
def object (members : List (Text × Json)) : Json :=
  .obj (members.foldl (fun done member => put done member.1 member.2) [])

/-- The value of a name among members. -/
def find? (members : List (Text × Json)) (name : Text) : Option Json :=
  match members with
  | [] => none
  | (n, v) :: rest => if n = name then some v else find? rest name

/-- A member that was set is found. -/
theorem find?_put (members : List (Text × Json)) (name : Text) (value : Json) :
    find? (put members name value) name = some value := by
  induction members with
  | nil => simp [put, find?]
  | cons member rest ih => by_cases same : member.1 = name <;> simp [put, find?, same, ih]

/-- Setting a member leaves the others as they are. -/
theorem find?_put_of_ne (members : List (Text × Json)) {name other : Text} (value : Json)
    (h : other ≠ name) : find? (put members name value) other = find? members other := by
  induction members with
  | nil => simp [put, find?, h.symm]
  | cons member rest ih =>
    by_cases same : member.1 = name
    · simp [put, find?, same, h.symm]
    · simp [put, find?, same, ih]

/-- The member of that name, if the value is an object and has one. -/
def member? : Json → Text → Option Json
  | obj members, name => find? members name
  | _, _ => none

/-- Whether the value is an object or an array. -/
def isContainer : Json → Bool
  | arr _ | obj _ => true
  | _ => false

/-- Null, false, zero and everything empty count as false, all else as true. -/
def truthy : Json → Bool
  | null => false
  | bool value => value
  | int value => value ≠ 0
  | float value => !value.isZero
  | str value => !value.isEmpty
  | arr items => !items.isEmpty
  | obj members => !members.isEmpty

/-- Whether a value counts as present: containers do, empty or not, and the scalars that count as
true. -/
def isSet (value : Json) : Bool := value.isContainer || value.truthy

end Json

/-- The most decimal digits that an integer may have in a text that is read or written. -/
def digitLimit : Nat := 4300

end ImportResolution
