import TypedRouter.Json.Number
import TypedRouter.OrderedMap

/-!
# JSON values

An object keeps its members in order, and no member name occurs twice: setting a name that is
there replaces the value in its place.  Two values are `same` when they differ in the order of
object members at most.
-/

namespace TypedRouter.Json

/-- A JSON value. -/
inductive Value where
  | null
  | bool (value : Bool)
  | number (value : Number)
  | string (value : String)
  | array (items : List Value)
  | object (members : List (String × Value))
  deriving Repr, Inhabited

namespace Value

/-- The member of an object with a name. -/
def get? : Value → String → Option Value
  | .object members, name => members.lookup name
  | _, _ => none

/-- The value with a member of an object replaced. -/
def set (v : Value) (name : String) (value : Value) : Value :=
  match v with
  | .object members => .object (OrderedMap.set name value members)
  | v => v

/-- The kind of a value, as error texts name it. -/
def kindName : Value → String
  | .null => "null"
  | .bool _ => "boolean"
  | .number _ => "number"
  | .string _ => "string"
  | .array _ => "array"
  | .object _ => "object"

mutual

/-- Deep equality that ignores the order of object members. -/
def same : Value → Value → Bool
  | .null, .null => true
  | .bool a, .bool b => a == b
  | .number a, .number b => a.same b
  | .string a, .string b => a == b
  | .array xs, .array ys => sameItems xs ys
  | .object ms, .object ns => ms.length == ns.length && sameMembers ms ns
  | _, _ => false
termination_by structural v => v

/-- Whether two lists are equal item by item. -/
def sameItems : List Value → List Value → Bool
  | [], [] => true
  | x :: xs, y :: ys => x.same y && sameItems xs ys
  | _, _ => false
termination_by structural v => v

/-- Whether every member of the first list has an equal one in the second. -/
def sameMembers : List (String × Value) → List (String × Value) → Bool
  | [], _ => true
  | (k, v) :: rest, ns =>
    (match ns.lookup k with
      | some w => v.same w
      | none => false) && sameMembers rest ns
termination_by structural v => v

end

end Value

end TypedRouter.Json
