import FederationSplit.Federation.Artifacts
import FederationSplit.Federation.Link
import FederationSplit.Federation.Scaffold
import FederationSplit.Settings.Config

namespace FederationSplit.Federation

open FederationSplit.Schema
open FederationSplit.Settings

def scaffoldPolicy (config : Config) : ScaffoldPolicy where
  collision := config.collisionPolicy
  emptyEntity := config.emptyEntityPolicy

/-- A supergraph without what composition needs, and with what its markers say about entities. -/
def prune (config : Config) (schema : SchemaDocument) : SchemaDocument :=
  eliminate (sanitizeRoots (strip
    (classify config.markerSelection (annotate config.federationUrl schema))))

def transform (config : Config) (schema : SchemaDocument) : Except ScaffoldError SchemaDocument :=
  let registry := entities config.markerSelection (annotate config.federationUrl schema)
  assemble (scaffoldPolicy config) registry (prune config schema)

end FederationSplit.Federation
