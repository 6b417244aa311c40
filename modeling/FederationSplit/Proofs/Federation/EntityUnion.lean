import FederationSplit.Proofs.Federation.Loading
import FederationSplit.Proofs.Federation.Replacing
import FederationSplit.Proofs.Rules.Folded
import FederationSplit.Proofs.Schema.Regrouping

namespace FederationSplit.Federation

open FederationSplit.Syntax
open FederationSplit.Schema
open FederationSplit.Rules
open FederationSplit.Settings

section

variable {keeps : TypeDefinition → Bool}
  (used : ∀ type, keeps type = true → type.kind = .object ∧ type.directives ≠ [])

include used

end

section

variable {config : Config} {schema : SchemaDocument} (distinct : DistinctNames schema.types)
  (rooted : ∀ name, schema.rootTypes.query = some name → schema.isRootType name = true)

include distinct rooted

end

/-! ### Keys of types -/

section

variable {schema : SchemaDocument} (distinct : DistinctNames schema.types)

include distinct

end

section

variable {config : Config} {schema result : SchemaDocument}

end

def forgivingConfig : Config :=
  { Config.default with collisionPolicy := .replace }

end FederationSplit.Federation
