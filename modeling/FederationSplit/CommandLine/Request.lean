import FederationSplit.CommandLine.Arguments
import FederationSplit.Files.FileTree
import FederationSplit.Generation.Header
import FederationSplit.Settings.Choice
import FederationSplit.Text.NaturalOrder

namespace FederationSplit.CommandLine

open FederationSplit.Files
open FederationSplit.Generation
open FederationSplit.Settings

structure Environment where
  workingDirectory : Place
  assignments : List (String × String)
  files : FileTree
  deriving DecidableEq, Repr

def Environment.value? (environment : Environment) (name : String) : Option String :=
  (environment.assignments.lookup name).filter (!·.isEmpty)

inductive UsageError where
  | words (error : WordError)
  | argumentMissing (name : String)
  | argumentUnexpected (word : String)
  | fileMissing (parameter path : String)
  | fileIsDirectory (parameter path : String)
  | selectionInvalid (word : String)
  | configUnreadable
  | configNoObject
  | configInvalid (invalid : InvalidChoice)
  deriving DecidableEq, Repr

def UsageError.message : UsageError → String
  | .words error => error.message
  | .argumentMissing name => s!"Missing argument '{name}'."
  | .argumentUnexpected word => s!"Got unexpected extra argument ({word})"
  | .fileMissing parameter path =>
      s!"Invalid value for '{parameter}': File '{path}' does not exist."
  | .fileIsDirectory parameter path =>
      s!"Invalid value for '{parameter}': File '{path}' is a directory."
  | .selectionInvalid word =>
      s!"Invalid value for '--marker-selection': '{word}' is not one of 'first', 'all'."
  | .configUnreadable => "Invalid value for --config: the config file is not valid JSON"
  | .configNoObject => "Invalid value for --config: the config file must contain a JSON object"
  | .configInvalid invalid => "Invalid value for --config: " ++ invalid.message

structure Request where
  config : Option Place
  serviceName : Option String
  markerSelection : Option MarkerSelection
  isVerbose : Bool
  schema : Place
  target : Place
  deriving DecidableEq, Repr

inductive Defect where
  | optionNotSettable
  | optionUnfit
  | serviceNameNoText
  | outputNoObject
  | kindUnknown
  | numberTooLong (number : Text.OversizedNumber)
  | name (fault : Fault)
  deriving DecidableEq, Repr

inductive Refusal where
  | help
  | usage (error : UsageError)
  | defect (defect : Defect)
  deriving DecidableEq, Repr

namespace Request

def refuseUnusable (path : Path) : Except Refusal Unit :=
  match path.parts.findSome? fun name => nameFault? (Text.codePoints name.toList) with
  | none => .ok ()
  | some fault => .error (.defect (.name fault))

def placeOfFile (environment : Environment) (parameter text : String) : Except Refusal Place := do
  let path := Path.ofText text
  refuseUnusable path
  let place := path.place environment.workingDirectory
  if environment.files.isDirectory place then
    throw (.usage (.fileIsDirectory parameter place.toText))
  pure place

def placeOfExistingFile (environment : Environment) (parameter text : String) :
    Except Refusal Place := do
  let place ← placeOfFile environment parameter text
  if environment.files.isFile place then pure place
  else throw (.usage (.fileMissing parameter place.toText))

/-- The text of an argument. One that is not given is taken from a variable. -/
def argumentText (environment : Environment) (name fallback : String) (given : Option String) :
    Except Refusal String :=
  match given.or (environment.value? fallback) with
  | some text => .ok text
  | none => .error (.usage (.argumentMissing name))

def selectionOfWord (word : String) : Except Refusal MarkerSelection :=
  (Choice.ofJson MarkerSelection (.string word)).mapError fun _ => .usage (.selectionInvalid word)

structure CheckedOptions where
  config : Option Place
  markerSelection : Option MarkerSelection

def CheckedOptions.read (environment : Environment) (arguments : Arguments)
    (options : CheckedOptions) : OptionName → Except Refusal CheckedOptions
  | .config => do
      let config ←
        (arguments.value? .config).mapM (placeOfExistingFile environment OptionName.config.long)
      pure { options with config }
  | .markerSelection => do
      let markerSelection ← (arguments.value? .markerSelection).mapM selectionOfWord
      pure { options with markerSelection }
  | _ => pure options

/-- Checks options in the order in which they are given first, then the arguments. -/
def ofArguments (environment : Environment) (arguments : Arguments) :
    Except Refusal Request := do
  let given := (arguments.settings.map (·.option)).eraseDups
  let options ← given.foldlM (CheckedOptions.read environment arguments)
    { config := none, markerSelection := none }
  let schema ← argumentText environment "SCHEMA" "INPUT_SCHEMA" arguments.positional[0]?
  let schema ← placeOfExistingFile environment "SCHEMA" schema
  let target ← argumentText environment "TARGET" "INPUT_TARGET" arguments.positional[1]?
  let target ← placeOfFile environment "TARGET" target
  match arguments.positional.drop 2 with
  | [] => pure ()
  | word :: _ => throw (.usage (.argumentUnexpected word))
  pure
    { config := options.config
      markerSelection := options.markerSelection
      serviceName := arguments.value? .serviceName
      isVerbose := arguments.gives .verbose
      schema, target }

def ofWords (environment : Environment) (words : List String) : Except Refusal Request := do
  let arguments ← (Arguments.ofWords words).mapError fun error => .usage (.words error)
  if arguments.gives .help then throw .help
  ofArguments environment arguments

/-- A value as a comment shows it: what leads to a file or directory is shown by its last name. -/
def shownValue (environment : Environment) (text : String) : Except Fault String := do
  let path := Path.ofText text
  if ← environment.files.holds environment.workingDirectory path then pure path.name
  else pure text

def shownOption (environment : Environment) (option : OptionName) (value : Option String) :
    Except Fault (List String) :=
  match value.filter (!·.isEmpty) with
  | some text => do pure [option.long, ← shownValue environment text]
  | none => pure []

def commandLine (environment : Environment) (request : Request) : Except Fault String := do
  let config ← shownOption environment .config (request.config.map Place.toText)
  let serviceName ← shownOption environment .serviceName request.serviceName
  let markerSelection ←
    shownOption environment .markerSelection (request.markerSelection.map Choice.word)
  let verbose := if request.isVerbose then [OptionName.verbose.long] else []
  let schema ← shownValue environment request.schema.toText
  let target ← shownValue environment request.target.toText
  pure (" ".intercalate
    ([programName, schema, target] ++ config ++ serviceName ++ markerSelection ++ verbose))

end Request

def placesMentioned (workingDirectory : Place) (assignments : List (String × String))
    (words : List String) : List Place :=
  let given :=
    match Arguments.ofWords words with
    | .error _ => []
    | .ok arguments => arguments.settings.filterMap (·.value) ++ arguments.positional
  (given ++ assignments.map (·.2)).flatMap fun text =>
    let path := Path.ofText text
    FileTree.ancestors (path.place workingDirectory) ++ path.placesAlong workingDirectory

end FederationSplit.CommandLine
