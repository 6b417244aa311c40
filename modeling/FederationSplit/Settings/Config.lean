import FederationSplit.Settings.Choice

namespace FederationSplit.Settings

/--
How output files are written; a value of any other type can stand in its place, or nothing at all.
-/
inductive OutputConfig where
  | options (validateBeforeWrite atomicWrite : Json)
  | other (value : Json)
  | absent
  deriving DecidableEq, Repr, Inhabited

inductive ChoiceOption where
  | markerSelection
  | collisionPolicy
  | emptyEntityPolicy
  | inputKind
  deriving DecidableEq, Repr

structure Config where
  federationVersion : Json
  markerSelection : MarkerSelection
  collisionPolicy : CollisionPolicy
  emptyEntityPolicy : EmptyEntityPolicy
  inputKind : InputKind
  serviceName : Json
  addGenerationComment : Json
  output : OutputConfig
  unchecked : List ChoiceOption
  hidesDump : Bool
  deriving DecidableEq, Repr, Inhabited

namespace Config

def default : Config where
  federationVersion := .string "v2.5"
  markerSelection := .first
  collisionPolicy := .error
  emptyEntityPolicy := .emit
  inputKind := .auto
  serviceName := .string "service"
  addGenerationComment := .boolean true
  output := .options (.boolean true) (.boolean true)
  unchecked := []
  hidesDump := false

def federationUrl (config : Config) : String :=
  "https://specs.apollo.dev/federation/" ++ config.federationVersion.inText

def serviceName? (config : Config) : Option String :=
  match config.serviceName with
  | .string name => some name
  | _ => none

inductive LoadError where
  | invalidChoice (invalid : InvalidChoice)
  | notSettable (key : String)
  | unfitValue (key : String)
  deriving DecidableEq, Repr

def outputOfJson (value : Json) : OutputConfig :=
  match value with
  | .object _ =>
      .options ((value.member? "validate_before_write").getD (.boolean true))
        ((value.member? "atomic_write").getD (.boolean true))
  | _ => .other value

def choice (α : Type) [Choice α] (value : Json) : Except LoadError α :=
  (Choice.ofJson α value).mapError .invalidChoice

def withChecked (config : Config) (option : ChoiceOption) : Config :=
  { config with unchecked := config.unchecked.filter (· != option) }

def withUnchecked (config : Config) (option : ChoiceOption) : Config :=
  { config with unchecked := option :: config.unchecked }

/-! ### Options put in unchecked -/

def bare : Config := { default with output := .absent }

/--
Puts an option in unchecked. A value that is no word of the option has the effect of the word that
is never compared with.
-/
def putUnchecked (config : Config) (key : String) (value : Json) : Config :=
  match key with
  | "federation_version" => { config with federationVersion := value }
  | "marker_selection" =>
      { config with markerSelection := Choice.ofJsonOr value MarkerSelection.all }.withUnchecked
        .markerSelection
  | "collision_policy" =>
      { config with collisionPolicy := Choice.ofJsonOr value CollisionPolicy.replace }.withUnchecked
        .collisionPolicy
  | "empty_entity_policy" =>
      { config with
        emptyEntityPolicy := Choice.ofJsonOr value EmptyEntityPolicy.omit }.withUnchecked
        .emptyEntityPolicy
  | "input_kind" =>
      { config with inputKind := Choice.ofJsonOr value InputKind.supergraph }.withUnchecked
        .inputKind
  | "service_name" => { config with serviceName := value }
  | "add_generation_comment" => { config with addGenerationComment := value }
  | "output" => { config with output := .other value }
  | "to_dict" => { config with hidesDump := true }
  | _ => config

def ofUnchecked (members : List (String × Json)) : Config :=
  members.foldl (fun config (key, value) => config.putUnchecked key value) bare

/-- Can the kind of the input not be told? Only the word for any kind needs no check. -/
def hasUnknownKind (config : Config) : Bool :=
  config.unchecked.contains .inputKind && config.inputKind != .auto

/-! ### Options of an object -/

/--
Sets one option. A key that names no option changes nothing, but for a few that mean something.
-/
def setOption (config : Config) (key : String) (value : Json) : Except LoadError Config :=
  match key with
  | "federation_version" => pure { config with federationVersion := value }
  | "marker_selection" => do
      let markerSelection ← choice MarkerSelection value
      pure ({ config with markerSelection }.withChecked .markerSelection)
  | "collision_policy" => do
      let collisionPolicy ← choice CollisionPolicy value
      pure ({ config with collisionPolicy }.withChecked .collisionPolicy)
  | "empty_entity_policy" => do
      let emptyEntityPolicy ← choice EmptyEntityPolicy value
      pure ({ config with emptyEntityPolicy }.withChecked .emptyEntityPolicy)
  | "input_kind" => do
      let inputKind ← choice InputKind value
      pure ({ config with inputKind }.withChecked .inputKind)
  | "service_name" => pure { config with serviceName := value }
  | "add_generation_comment" => pure { config with addGenerationComment := value }
  | "output" =>
      match config.output, outputOfJson value with
      | .absent, .other _ => pure config
      | _, output => pure { config with output }
  | "to_dict" => pure { config with hidesDump := true }
  | "federation_url" | "__weakref__" => throw (.notSettable key)
  | "__class__" => throw (.unfitValue key)
  | "__dict__" =>
      match value with
      | .object members => pure (ofUnchecked members)
      | _ => throw (.unfitValue key)
  | _ => pure config

def ofMembers (members : List (String × Json)) : Except LoadError Config :=
  members.foldlM (fun config (key, value) => config.setOption key value) default

inductive DumpError where
  | hidden
  | unchecked
  | outputNoObject
  deriving DecidableEq, Repr

def toJson (config : Config) : Except DumpError Json :=
  if config.hidesDump then .error .hidden
  else if !config.unchecked.isEmpty then .error .unchecked
  else
    match config.output with
    | .other _ | .absent => .error .outputNoObject
    | .options validateBeforeWrite atomicWrite =>
        .ok (.object
          [("federation_version", config.federationVersion),
            ("marker_selection", .string (Choice.word config.markerSelection)),
            ("collision_policy", .string (Choice.word config.collisionPolicy)),
            ("empty_entity_policy", .string (Choice.word config.emptyEntityPolicy)),
            ("input_kind", .string (Choice.word config.inputKind)),
            ("service_name", config.serviceName),
            ("add_generation_comment", config.addGenerationComment),
            ("output", .object
              [("validate_before_write", validateBeforeWrite), ("atomic_write", atomicWrite)])])

end Config

end FederationSplit.Settings
