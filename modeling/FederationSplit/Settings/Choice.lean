import FederationSplit.Json.Printer

namespace FederationSplit.Settings

inductive MarkerSelection where
  | first
  | all
  deriving DecidableEq, Repr, Inhabited

inductive CollisionPolicy where
  | error
  | replace
  deriving DecidableEq, Repr, Inhabited

inductive EmptyEntityPolicy where
  | emit
  | omit
  | error
  deriving DecidableEq, Repr, Inhabited

inductive InputKind where
  | auto
  | service
  | supergraph
  deriving DecidableEq, Repr, Inhabited

class Choice (α : Type) where
  title : String
  options : List α
  word : α → String

instance : Choice MarkerSelection where
  title := "MarkerSelection"
  options := [.first, .all]
  word
    | .first => "first"
    | .all => "all"

instance : Choice CollisionPolicy where
  title := "CollisionPolicy"
  options := [.error, .replace]
  word
    | .error => "error"
    | .replace => "replace"

instance : Choice EmptyEntityPolicy where
  title := "EmptyEntityPolicy"
  options := [.emit, .omit, .error]
  word
    | .emit => "emit"
    | .omit => "omit"
    | .error => "error"

instance : Choice InputKind where
  title := "InputKind"
  options := [.auto, .service, .supergraph]
  word
    | .auto => "auto"
    | .service => "service"
    | .supergraph => "supergraph"

structure InvalidChoice where
  value : Json
  title : String
  deriving DecidableEq, Repr

def InvalidChoice.message (invalid : InvalidChoice) : String :=
  s!"{invalid.value.display} is not a valid {invalid.title}"

def Choice.ofJson? (α : Type) [Choice α] (value : Json) : Option α :=
  match value with
  | .string text => (Choice.options : List α).find? (Choice.word · == text)
  | _ => none

def Choice.ofJson (α : Type) [Choice α] (value : Json) : Except InvalidChoice α :=
  match Choice.ofJson? α value with
  | some option => .ok option
  | none => .error { value, title := Choice.title α }

def Choice.ofJsonOr {α : Type} [Choice α] (value : Json) (fallback : α) : α :=
  (Choice.ofJson? α value).getD fallback

end FederationSplit.Settings
