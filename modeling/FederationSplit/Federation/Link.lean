import FederationSplit.Federation.Prelude
import FederationSplit.Schema.SchemaDocument

namespace FederationSplit.Federation

open FederationSplit.Syntax
open FederationSplit.Schema

def linkUsage (url : String) : DirectiveUsage :=
  DirectiveUsage.of "link" [Argument.of "url" (.text url)]

def linkTypes : List TypeDefinition := [linkImport, linkPurpose]

def declareLinkDirective (schema : SchemaDocument) : SchemaDocument :=
  if (schema.directive? "link").isSome then schema
  else { schema with directives := schema.directives ++ [linkDirective (required "String")] }

def declareLinkTypes (schema : SchemaDocument) : SchemaDocument :=
  { schema with
    types := schema.types ++ linkTypes.filter fun type => (schema.type? type.name).isNone }

/-- Replaces the schema-level directive usages by a single link to a specification. -/
def annotate (url : String) (schema : SchemaDocument) : SchemaDocument :=
  declareLinkTypes (declareLinkDirective { schema with schemaDirectives := [linkUsage url] })

end FederationSplit.Federation
