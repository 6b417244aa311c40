import FederationSplit.Json.Real

namespace FederationSplit

inductive Json where
  | null
  | boolean (value : Bool)
  | integer (value : Int)
  | real (value : Json.Real)
  | string (text : String)
  | array (items : List Json)
  | object (members : List (String × Json))
  deriving Repr, Inhabited

namespace Json

mutual

def decEq (left right : Json) : Decidable (left = right) :=
  if kind : left.ctorIdx = right.ctorIdx then
    match left, right, kind with
    | .null, .null, _ => isTrue rfl
    | .boolean left, .boolean right, _ => decidable_of_iff (left = right) (by simp)
    | .integer left, .integer right, _ => decidable_of_iff (left = right) (by simp)
    | .real left, .real right, _ => decidable_of_iff (left = right) (by simp)
    | .string left, .string right, _ => decidable_of_iff (left = right) (by simp)
    | .array left, .array right, _ =>
        have := decEqAll left right
        decidable_of_iff (left = right) (by simp)
    | .object left, .object right, _ =>
        have := decEqMembers left right
        decidable_of_iff (left = right) (by simp)
  else isFalse fun same => kind (congrArg Json.ctorIdx same)

def decEqAll (left right : List Json) : Decidable (left = right) :=
  match left, right with
  | [], [] => isTrue rfl
  | [], _ :: _ | _ :: _, [] => isFalse nofun
  | left :: leftRest, right :: rightRest =>
      have := left.decEq right
      have := decEqAll leftRest rightRest
      decidable_of_iff (left = right ∧ leftRest = rightRest) (by simp)

def decEqMembers (left right : List (String × Json)) : Decidable (left = right) :=
  match left, right with
  | [], [] => isTrue rfl
  | [], _ :: _ | _ :: _, [] => isFalse nofun
  | (leftKey, left) :: leftRest, (rightKey, right) :: rightRest =>
      have := left.decEq right
      have := decEqMembers leftRest rightRest
      decidable_of_iff (leftKey = rightKey ∧ left = right ∧ leftRest = rightRest)
        (by simp [and_assoc])

end

instance : DecidableEq Json := decEq

def setMember (key : String) (value : Json) : List (String × Json) → List (String × Json)
  | [] => [(key, value)]
  | (other, old) :: rest =>
      if other == key then (key, value) :: rest else (other, old) :: setMember key value rest

def member? (key : String) : Json → Option Json
  | .object members => members.lookup key
  | _ => none

/-- Whether a value counts as a yes: neither absent, nor false, nor zero, nor empty. -/
def isTruthy : Json → Bool
  | .null => false
  | .boolean value => value
  | .integer value => value != 0
  | .real (.finite _ digits _) => digits != 0
  | .real _ => true
  | .string text => !text.isEmpty
  | .array items => !items.isEmpty
  | .object members => !members.isEmpty

end Json

end FederationSplit
