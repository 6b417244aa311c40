import FederationSplit.Syntax.Document

namespace FederationSplit.Federation

open FederationSplit.Syntax

def compositionPrefix : String := "join__"

def isCompositionName (name : Name) : Bool :=
  compositionPrefix.toList.isPrefixOf name.toList

def typeMarker : Name := "join__type"

def linkSpecUrl : String := "https://specs.apollo.dev/link/v1.0"

def joinSpecUrl : String := "https://specs.apollo.dev/join/v0.3"

/-- Directives owned by federation. Their usages never reach a supergraph. -/
def federationDirectives : List Name :=
  ["key", "shareable", "external", "requires", "provides", "extends", "override", "inaccessible",
    "tag", "interfaceObject", "composeDirective", "link"]

/-- Types that a service may declare for its own runtime and that federation rebuilds. -/
def federationTypes : List Name :=
  ["_Any", "_Entity", "_Service", "FieldSet", "_FieldSet", "link__Import", "link__Purpose"]

/-- Query fields that a service may declare for its own runtime and that federation rebuilds. -/
def federationQueryFields : List Name := ["_entities", "_service"]

end FederationSplit.Federation

namespace FederationSplit.Syntax

def Value.text (text : String) : Value :=
  .string { text, isBlock := false }

def Argument.of (name : Name) (value : Value) : Argument where
  name := name
  value := value
  origin := none

def DirectiveUsage.of (name : Name) (arguments : List Argument) : DirectiveUsage where
  name := name
  arguments := arguments
  origin := none

def DirectiveUsage.argument? (usage : DirectiveUsage) (name : Name) : Option Argument :=
  usage.arguments.find? (·.name == name)

/-- The arguments of a usage without those that repeat the name of an earlier one. -/
def DirectiveUsage.distinctArguments (usage : DirectiveUsage) : List Argument :=
  usage.arguments.foldl
    (fun kept argument =>
      if kept.any (·.name == argument.name) then kept else kept ++ [argument]) []

def usagesOf (name : Name) (usages : List DirectiveUsage) : List DirectiveUsage :=
  usages.filter (·.name == name)

end FederationSplit.Syntax
