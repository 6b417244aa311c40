import FederationSplit.CommandLine.WorkflowCommand
import FederationSplit.CommandLine.Request
import FederationSplit.Generation.Progress
import FederationSplit.Json.Parser
import FederationSplit.Output.SchemaFile
import FederationSplit.Settings.Config
import FederationSplit.Text.EscapeSequence
import FederationSplit.Text.Lines
import FederationSplit.Text.Utf8

namespace FederationSplit.CommandLine

open FederationSplit.Files
open FederationSplit.Generation
open FederationSplit.Output
open FederationSplit.Settings
open FederationSplit.Text

inductive Failure where
  | undecodable (fault : Utf8.Fault)
  | generation (source : String) (error : GenerationError)
  | writing (text : String) (error : WriteError)
  deriving DecidableEq, Repr

def Failure.isInternal : Failure → Bool
  | .undecodable _ => false
  | .generation _ error => error.isInternal
  | .writing _ (.text _) => true
  | .writing _ (.file _) => false

def Failure.message (failure : Failure) : String :=
  let message :=
    match failure with
    | .undecodable fault => fault.message
    | .generation source error => error.message source
    | .writing text error => error.message text
  if failure.isInternal then "Internal error: " ++ message else message

inductive Stop where
  | help
  | usage (error : UsageError)
  | defect (defect : Defect)
  | failure (failure : Failure)
  deriving DecidableEq, Repr

structure Outcome where
  events : List Event
  ending : Except Stop Unit
  files : FileTree

def configOfContent (content : List UInt8) : Except Stop Config := do
  let text ← (Utf8.decode content).mapError fun _ => .usage .configUnreadable
  match Json.parse? text with
  | none => throw (.usage .configUnreadable)
  | some (.object members) =>
      (Config.ofMembers members).mapError fun
        | .invalidChoice invalid => .usage (.configInvalid invalid)
        | .notSettable _ => .defect .optionNotSettable
        | .unfitValue _ => .defect .optionUnfit
  | some _ => throw (.usage .configNoObject)

/-- The configuration of a request: its options override those in the configuration file. -/
def configOfRequest (files : FileTree) (request : Request) : Except Stop Config := do
  let config ←
    match request.config.bind files.content? with
    | some content => configOfContent content
    | none => pure Config.default
  pure
    { config with
      serviceName := (request.serviceName.map Json.string).getD config.serviceName
      markerSelection := request.markerSelection.getD config.markerSelection }

def generatorOfRequest (files : FileTree) (request : Request) : Except Stop Generator := do
  match Generator.ofConfig? (← configOfRequest files request) with
  | some generator => pure generator
  | none => throw (.defect .serviceNameNoText)

/-- The text of a source. All line ends are read as line feeds. -/
def sourceOfContent (content : List UInt8) : Except Stop String := do
  let text ← (Utf8.decode content).mapError fun fault => .failure (.undecodable fault)
  pure (String.ofList (withLineFeeds text.toList))

def writeOptions (config : Config) : Except Stop WriteOptions :=
  match config.output with
  | .options validateBeforeWrite atomicWrite =>
      .ok { isChecked := validateBeforeWrite.isTruthy, isAtomic := atomicWrite.isTruthy }
  | .other _ | .absent => .error (.defect .outputNoObject)

def writingEvents (options : WriteOptions) (request : Request) : List Event :=
  let target := request.target.toText
  (if options.isAtomic then [.written target] else []) ++
    [.generated target request.schema.toText]

def Stop.ofGenerationError (source : String) (error : GenerationError) : Stop :=
  match error with
  | .load .kindUnknown => .defect .kindUnknown
  | _ =>
      match error.obstacle? with
      | some number => .defect (.numberTooLong number)
      | none => .failure (.generation source error)

def Stop.ofWriteError (text : String) : WriteError → Stop
  | .text (.unordered number) => .defect (.numberTooLong number)
  | .file { fault := .unencodable, .. } => .defect (.name .unencodable)
  | error => .failure (.writing text error)

def generateText (generator : Generator) (source commandLine : String) :
    Except Stop (String × WriteOptions) := do
  let text ← (generator.generate source commandLine).mapError (Stop.ofGenerationError source)
  pure (text, ← writeOptions generator.config)

structure Preparation where
  generator : Generator
  commandLine : String
  source : String

def generateFile (environment : Environment) (request : Request) (preparation : Preparation) :
    Outcome :=
  let files := environment.files
  let generator := preparation.generator
  let events := generator.events preparation.source
  match generateText generator preparation.source preparation.commandLine with
  | .error stop => { events, ending := .error stop, files }
  | .ok (text, options) =>
      let target := Path.ofPlace request.target
      match writeSchema options environment.workingDirectory target text files with
      | (.ok (), files) =>
          { events := events ++ writingEvents options request, ending := .ok (), files }
      | (.error error, files) =>
          { events, ending := .error (Stop.ofWriteError text error), files }

def prepare (environment : Environment) (request : Request) : Except Stop Preparation := do
  let files := environment.files
  let generator ← generatorOfRequest files request
  let commandLine ←
    (request.commandLine environment).mapError fun fault => .defect (.name fault)
  let source ← sourceOfContent ((files.content? request.schema).getD [])
  pure { generator, commandLine, source }

def perform (environment : Environment) (request : Request) : Outcome :=
  match prepare environment request with
  | .error stop => { events := [], ending := .error stop, files := environment.files }
  | .ok preparation =>
      let outcome := generateFile environment request preparation
      { outcome with events := if request.isVerbose then outcome.events else [] }

def Stop.ofRefusal : Refusal → Stop
  | .help => .help
  | .usage error => .usage error
  | .defect found => .defect found

def Defect.message : Defect → String
  | .optionNotSettable => "an option cannot be set"
  | .optionUnfit => "an option has a value of the wrong type"
  | .serviceNameNoText => "service_name must be a string"
  | .outputNoObject => "output must be an object"
  | .kindUnknown => "input_kind must be one of 'auto', 'service', 'supergraph'"
  | .numberTooLong number => number.message
  | .name .nullCharacter => "a name holds the null character"
  | .name .unencodable => "a text holds half of a surrogate pair"
  | .name _ => "a name is too long"

def usageLine : String := "Usage: supergraph-to-subgraph [OPTIONS] SCHEMA TARGET\n"

def helpText : String :=
  usageLine ++ "\n" ++
    "  Convert the supergraph (or service) schema SCHEMA into a federation subgraph\n" ++
    "  schema written to TARGET.\n" ++
    "\n" ++
    "Options:\n" ++
    "  -c, --config FILE\n" ++
    "  -s, --service-name TEXT         Service name used when composing a service\n" ++
    "                                  schema\n" ++
    "  --marker-selection [first|all]  Read only the first join__type marker of a\n" ++
    "                                  type, or all of them\n" ++
    "  -v, --verbose                   Log every pipeline step\n" ++
    "  --help                          Show this message and exit.\n"

def errorLine (message : String) : String :=
  withoutEscapeSequences s!"Error: {message}\n"

def wantsCommands (environment : Environment) : Bool :=
  environment.value? "GITHUB_ACTIONS" = some "true"

def workflowCommand? (environment : Environment) : Except Stop Unit → Option String
  | .error (.failure failure) =>
      if wantsCommands environment then
        some (withoutEscapeSequences (WorkflowCommand.error failure.message ++ "\n"))
      else none
  | _ => none

/-- The end of a command, which breaks off when its command to a workflow runner has no bytes. -/
def reportedEnding (environment : Environment) (ending : Except Stop Unit) : Except Stop Unit :=
  match workflowCommand? environment ending with
  | some command => if isWellFormed command then ending else .error (.defect (.name .unencodable))
  | none => ending

namespace Outcome

def exitCode (outcome : Outcome) : Nat :=
  match outcome.ending with
  | .ok () | .error .help => 0
  | .error (.usage _) => 2
  | .error (.defect _) => 1
  | .error (.failure failure) => if failure.isInternal then 3 else 1

def standardOutput (environment : Environment) (outcome : Outcome) : String :=
  match outcome.ending with
  | .error .help => helpText
  | ending => (workflowCommand? environment ending).getD ""

def standardError (outcome : Outcome) : String :=
  let ending :=
    match outcome.ending with
    | .ok () | .error .help => ""
    | .error (.usage error) => usageLine ++ "\n" ++ errorLine error.message
    | .error (.defect defect) => errorLine defect.message
    | .error (.failure failure) => errorLine failure.message
  showHalves (String.join (outcome.events.map Event.line) ++ ending)

end Outcome

def run (environment : Environment) (words : List String) : Outcome :=
  match Request.ofWords environment words with
  | .error refusal =>
      { events := [], ending := .error (Stop.ofRefusal refusal), files := environment.files }
  | .ok request =>
      let outcome := perform environment request
      { outcome with ending := reportedEnding environment outcome.ending }

end FederationSplit.CommandLine
