import FederationSplit.Federation.Loading
import FederationSplit.Federation.Subgraph
import FederationSplit.Generation.Header

namespace FederationSplit.Generation

open FederationSplit.Syntax
open FederationSplit.Schema
open FederationSplit.Federation
open FederationSplit.Settings

structure Generator where
  config : Config
  service : String
  deriving DecidableEq, Repr

/-- There is a generator for a configuration unless the name of the service is no text. -/
def Generator.ofConfig? (config : Config) : Option Generator :=
  config.serviceName?.map fun service => { config, service }

inductive GenerationError where
  | load (error : LoadError)
  | scaffold (error : ScaffoldError)
  deriving DecidableEq, Repr

def GenerationError.message (source : String) : GenerationError → String
  | .load error => "\n".intercalate (error.messages source)
  | .scaffold error => error.message

def GenerationError.obstacle? : GenerationError → Option Text.OversizedNumber
  | .load error => error.obstacle?
  | .scaffold _ => none

def GenerationError.isInternal : GenerationError → Bool
  | .scaffold (.queryTypeMissing _) | .scaffold (.entityUnresolved _) => true
  | _ => false

namespace Generator

def load (generator : Generator) (source : String) : Except LoadError SchemaDocument := do
  let document ← (Document.parse source).mapError .malformed
  if generator.config.hasUnknownKind then throw .kindUnknown
  loadDocument generator.config.inputKind generator.service document

def subgraph (generator : Generator) (source : String) :
    Except GenerationError SchemaDocument := do
  let schema ← (generator.load source).mapError .load
  (transform generator.config schema).mapError .scaffold

def headerFor (generator : Generator) (commandLine : String) : String :=
  if generator.config.addGenerationComment.isTruthy then
    header programVersion commandLine generator.config.federationUrl
  else ""

def generate (generator : Generator) (source commandLine : String) :
    Except GenerationError String := do
  let schema ← generator.subgraph source
  pure (schema.printBelow (generator.headerFor commandLine))

end Generator

end FederationSplit.Generation
