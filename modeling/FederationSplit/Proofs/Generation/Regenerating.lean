import FederationSplit.Proofs.Federation.Origins
import FederationSplit.Proofs.Federation.Reloading
import FederationSplit.Proofs.Generation.Writing
import FederationSplit.Proofs.Schema.Extending

namespace FederationSplit.Generation

open FederationSplit.Syntax
open FederationSplit.Schema
open FederationSplit.Rules
open FederationSplit.Federation
open FederationSplit.Settings

/-- What is generated from a schema that is loaded. -/
private def written (config : Config) (header : String) (schema : SchemaDocument) :
    Except GenerationError String :=
  (·.printBelow header) <$> (transform config schema).mapError .scaffold

private theorem generate_of_load {generator : Generator} {source : String}
    {schema : SchemaDocument} (loaded : generator.load source = .ok schema)
    (commandLine : String) :
    generator.generate source commandLine =
      written generator.config (generator.headerFor commandLine) schema := by
  rw [Generator.generate, Generator.subgraph, loaded, written]
  cases transformed : transform generator.config schema <;>
    simp [transformed, Except.mapError, bind, Except.bind, pure, Except.pure, Functor.map,
      Except.map]

private theorem written_congr {schema other : SchemaDocument}
    (same : schema.withoutOrigins = other.withoutOrigins) (config : Config) (header : String) :
    written config header schema = written config header other := by
  have forget (schema : SchemaDocument) :
      written config header schema.withoutOrigins = written config header schema := by
    have print (result : SchemaDocument) :
        result.withoutOrigins.printBelow header = result.printBelow header := by
      rw [SchemaDocument.printBelow, SchemaDocument.printBelow, print_withoutOrigins]
    rw [written, written, transform_withoutOrigins]
    cases transform config schema with
    | error error => rfl
    | ok result => exact congrArg Except.ok (print result)
  rw [← forget schema, same, forget other]

private theorem hasUnknownKind_of_auto {config : Config} (detected : config.inputKind = .auto) :
    config.hasUnknownKind = false := by
  rw [Config.hasUnknownKind, detected]
  exact Bool.and_false _

private theorem declaresSupergraph_eq_false {document : Document}
    (composable : Composable (serviceDefinitions document)) :
    declaresSupergraph document = false := by
  have unowned : typeMarker ∉ federationDirectives := by decide
  have added : typeMarker ∈ supergraphDirectives.map (·.name) := by decide
  rw [declaresSupergraph, List.any_eq_false]
  intro directive member marked
  have named : directive.name = typeMarker := beq_iff_eq.mp marked
  apply composable.directives directive
  · rw [serviceDefinitions_directives, fold_directives, List.mem_filter]
    exact ⟨member, by simpa [named] using unowned⟩
  · rw [named]
    exact added

private theorem declaresSupergraph_congr {document other : Document}
    (same : document.withoutOrigins = other.withoutOrigins) :
    declaresSupergraph document = declaresSupergraph other := by
  have forget (document : Document) :
      declaresSupergraph document.withoutOrigins = declaresSupergraph document := by
    rw [declaresSupergraph, Document.withoutOrigins, directiveDefinitions_withoutOrigins,
      List.any_map]
    rfl
  rw [← forget document, same, forget other]

section

variable {generator : Generator} {source : String} {document : Document}
  {schema : SchemaDocument} (parsed : Document.parse source = .ok document)
  (composed : compose generator.service document = .ok schema)
  (detected : generator.config.inputKind = .auto)

include parsed composed detected

private theorem load_print (readsBack : ReadsBack schema) :
    ∃ again : SchemaDocument, again.withoutOrigins = schema.withoutOrigins ∧
      ∀ loaded, generator.load schema.print = .ok loaded ↔
        Composable (serviceDefinitions document) ∧ loaded = again := by
  obtain ⟨clean, rfl⟩ := compose_ok_iff.mp composed
  obtain ⟨sound, folded⟩ := fold_toDocument_supergraph parsed clean generator.service
  obtain ⟨read, readParsed, same⟩ := readsBack
  have isSupergraph : effectiveKind generator.config.inputKind read ≠ .service := by
    have declared := declaresSupergraph_congr same
    rw [declaresSupergraph_supergraph] at declared
    rw [detected, effectiveKind, declared]
    decide
  have sameFold : (fold read).withoutOrigins = (fold (supergraph generator.service
      (serviceDefinitions document)).toDocument).withoutOrigins := by
    rw [← fold_withoutOrigins, same, fold_withoutOrigins]
  have readSound : (fold read).problems = [] := by
    change (fold read).withoutOrigins.problems = []
    rw [sameFold]
    exact sound
  have readRules : violations read = [] ↔ Composable (serviceDefinitions document) := by
    rw [← violations_withoutOrigins, same, violations_withoutOrigins,
      violations_supergraph_eq_nil_iff _ (served_serviceDefinitions document) clean]
  refine ⟨(fold read).toSchemaDocument, ?_, fun loaded => ?_⟩
  · rw [← toSchemaDocument_withoutOrigins, sameFold, toSchemaDocument_withoutOrigins, folded]
  · rw [Generator.load_ok_iff]
    constructor
    · rintro ⟨other, otherParsed, -, fromDocument⟩
      rw [readParsed] at otherParsed
      obtain rfl := Except.ok.inj otherParsed
      rw [loadDocument_ok_iff, if_neg isSupergraph] at fromDocument
      exact ⟨readRules.mp fromDocument.1, fromDocument.2.2⟩
    · rintro ⟨composable, rfl⟩
      refine ⟨read, readParsed, hasUnknownKind_of_auto detected, ?_⟩
      rw [loadDocument_ok_iff, if_neg isSupergraph]
      exact ⟨readRules.mpr composable, readSound, rfl⟩

private theorem generate_print (readsBack : ReadsBack schema)
    (composable : Composable (serviceDefinitions document)) (commandLine : String) :
    generator.generate schema.print commandLine = generator.generate source commandLine := by
  obtain ⟨again, same, loads⟩ := load_print parsed composed detected readsBack
  have isService : effectiveKind generator.config.inputKind document = .service := by
    rw [detected, effectiveKind, declaresSupergraph_eq_false composable]
    rfl
  have fromSource : generator.load source = .ok schema := by
    refine Generator.load_ok_iff.mpr ⟨document, parsed, hasUnknownKind_of_auto detected, ?_⟩
    rw [loadDocument_ok_iff, if_pos isService]
    exact compose_ok_iff.mp composed
  rw [generate_of_load ((loads again).mpr ⟨composable, rfl⟩), generate_of_load fromSource,
    written_congr same]

end

/--
The supergraph that a service is composed into is recognised as one and folded into itself. It is
loaded again, and generated from like the service, exactly if nothing in the service is in its way.
-/
theorem reload_of_compose {generator : Generator} {source : String} {document : Document}
    {schema : SchemaDocument} (parsed : Document.parse source = .ok document)
    (composed : compose generator.service document = .ok schema) :
    declaresSupergraph schema.toDocument = true ∧
      (fold schema.toDocument).problems = [] ∧
      (fold schema.toDocument).toSchemaDocument = schema ∧
      (∀ loaded, loadSupergraph schema.toDocument = .ok loaded ↔
        Composable (serviceDefinitions document) ∧ loaded = schema) ∧
      (generator.config.inputKind = .auto → ReadsBack schema →
        ((∃ loaded, generator.load schema.print = .ok loaded) ↔
          Composable (serviceDefinitions document)) ∧
        (Composable (serviceDefinitions document) → ∀ commandLine,
          generator.generate schema.print commandLine =
            generator.generate source commandLine)) := by
  have reloaded := loadSupergraph_of_compose parsed composed
  have text (detected : generator.config.inputKind = .auto) (readsBack : ReadsBack schema) :
      (∃ loaded, generator.load schema.print = .ok loaded) ↔
        Composable (serviceDefinitions document) := by
    obtain ⟨again, -, loads⟩ := load_print parsed composed detected readsBack
    exact ⟨fun ⟨loaded, isLoaded⟩ => ((loads loaded).mp isLoaded).1,
      fun composable => ⟨again, (loads again).mpr ⟨composable, rfl⟩⟩⟩
  obtain ⟨clean, rfl⟩ := compose_ok_iff.mp composed
  obtain ⟨sound, same⟩ := fold_toDocument_supergraph parsed clean generator.service
  exact ⟨declaresSupergraph_supergraph _ _, sound, same, reloaded, fun detected readsBack =>
    ⟨text detected readsBack, generate_print parsed composed detected readsBack⟩⟩

def cupsSource : String := "type Query { cups: Int }"

def cupsDocument : Document where
  definitions := [.type (plainObject "Query" [plainField "cups" (.named "Int")])]

def cupsQuery : TypeDefinition :=
  { plainObject "Query" [plainField "cups" (.named "Int")] with
    directives := [marker typeMarker "CUPS" []] }

def cupsGraphs : TypeDefinition :=
  { plainEnum "join__Graph" [] with
    body := .enum
      [{ enumValue none "CUPS" with
          directives :=
            [DirectiveUsage.of "join__graph"
              [Argument.of "name" (.text "cups"), Argument.of "url" (.text "")]] }] }

def cupsSupergraph : SchemaDocument where
  types :=
    [cupsQuery, scalarType "join__FieldSet", linkImport, describedLinkPurpose, cupsGraphs]
  directives := supergraphDirectives
  schemaDirectives := supergraphLinks
  rootTypes := { query := some "Query", mutation := none, subscription := none }

private theorem supergraph_cups :
    supergraph "cups" (serviceDefinitions cupsDocument) = cupsSupergraph := by
  decide

private theorem parse_cupsSource : Document.parse cupsSource = .ok cupsDocument := by
  decide +kernel

def cupsTexts : List String :=
  ["schema @link(url: \"https://specs.apollo.dev/link/v1.0\") " ++
      "@link(url: \"https://specs.apollo.dev/join/v0.3\", for: EXECUTION) \x7b\n" ++
      "  query: Query\n\x7d",
    "directive @join__enumValue(graph: join__Graph!) repeatable on ENUM_VALUE",
    "directive @join__field(graph: join__Graph, requires: join__FieldSet, " ++
      "provides: join__FieldSet, type: String, external: Boolean, override: String, " ++
      "usedOverridden: Boolean) repeatable on FIELD_DEFINITION | INPUT_FIELD_DEFINITION",
    "directive @join__graph(name: String!, url: String!) on ENUM_VALUE",
    "directive @join__implements(graph: join__Graph!, interface: String!) repeatable on " ++
      "OBJECT | INTERFACE",
    "directive @join__type(graph: join__Graph!, key: join__FieldSet, " ++
      "extension: Boolean! = false, resolvable: Boolean! = true, " ++
      "isInterfaceObject: Boolean! = false) repeatable on " ++
      "OBJECT | INTERFACE | UNION | ENUM | INPUT_OBJECT | SCALAR",
    "directive @join__unionMember(graph: join__Graph!, member: String!) repeatable on UNION",
    "directive @link(url: String, as: String, for: link__Purpose, import: [link__Import]) " ++
      "repeatable on SCHEMA",
    "type Query @join__type(graph: CUPS) \x7b\n  cups: Int\n\x7d",
    "scalar join__FieldSet",
    "scalar link__Import",
    describedLinkPurpose.print,
    "enum join__Graph \x7b\n  CUPS @join__graph(name: \"cups\", url: \"\")\n\x7d"]

private theorem printDefinitions_cupsSupergraph :
    cupsSupergraph.printDefinitions = cupsTexts := by
  have purposes : cupsSupergraph.printDefinitions[11]? = some describedLinkPurpose.print := by
    rw [SchemaDocument.printDefinitions, if_pos (by decide)]
    rfl
  have expected : cupsTexts[11]? = some describedLinkPurpose.print := rfl
  exact eq_of_around 11 (by decide +kernel) (purposes.trans expected.symm) (by decide)

private theorem readsBack_cupsSupergraph : ReadsBack cupsSupergraph := by
  have texts : cupsTexts =
      [String.ofList _ ++ String.ofList _ ++ String.ofList _, String.ofList _,
        String.ofList _ ++ String.ofList _ ++ String.ofList _, String.ofList _,
        String.ofList _ ++ String.ofList _,
        String.ofList _ ++ String.ofList _ ++ String.ofList _ ++ String.ofList _,
        String.ofList _, String.ofList _ ++ String.ofList _, String.ofList _, String.ofList _,
        String.ofList _, describedLinkPurpose.print, String.ofList _] := rfl
  have purposes : describedLinkPurpose.print = _ :=
    print_purposes ⟨String.ofList _, true⟩ ⟨String.ofList _, true⟩
  rw [readsBack_iff, SchemaDocument.print, printDefinitions_cupsSupergraph, texts, purposes,
    Document.parse, tokens, String.toList_append, String.toList_intercalate]
  simp only [List.map_cons, List.map_nil, String.toList_append, String.toList_ofList,
    String.reduceToList, StringLiteral.print, if_true]
  decide +kernel

def selectingSource : String := "type Query { cups(a: FieldSet): Int }"

def selectingDocument : Document where
  definitions :=
    [.type (plainObject "Query"
      [{ plainField "cups" (.named "Int") with
          arguments := [parameter "a" (.named "FieldSet")] }])]

private theorem parse_selectingSource :
    Document.parse selectingSource = .ok selectingDocument := by
  decide +kernel

/-- The sets of fields that the service is accepted with are unknown in its supergraph. -/
theorem reload_cupsSource_selectingSource :
    (∃ schema, compose "cups" cupsDocument = .ok schema ∧
      loadSupergraph schema.toDocument = .ok schema ∧
      (∃ loaded, plainGenerator.load schema.print = .ok loaded) ∧
      ∀ commandLine, plainGenerator.generate schema.print commandLine =
        plainGenerator.generate cupsSource commandLine) ∧
      ∃ schema, Document.parse selectingSource = .ok selectingDocument ∧
        compose "cups" selectingDocument = .ok schema ∧
        ∀ loaded, loadSupergraph schema.toDocument ≠ .ok loaded := by
  constructor
  · have clean : compositionProblems (serviceDefinitions cupsDocument) = [] :=
      List.isEmpty_iff.mp (by decide)
    have composed : compose plainGenerator.service cupsDocument = .ok cupsSupergraph :=
      compose_ok_iff.mpr ⟨clean, supergraph_cups.symm⟩
    have composable : Composable (serviceDefinitions cupsDocument) := by decide
    obtain ⟨-, -, -, reloaded, printed⟩ := reload_of_compose parse_cupsSource composed
    obtain ⟨loads, generates⟩ := printed rfl readsBack_cupsSupergraph
    exact ⟨cupsSupergraph, composed, (reloaded _).mpr ⟨composable, rfl⟩,
      loads.mpr composable, generates composable⟩
  · have clean : compositionProblems (serviceDefinitions selectingDocument) = [] :=
      List.isEmpty_iff.mp (by decide)
    have composed : compose plainGenerator.service selectingDocument =
        .ok (supergraph "cups" (serviceDefinitions selectingDocument)) :=
      compose_ok_iff.mpr ⟨clean, rfl⟩
    have inTheWay : ¬Composable (serviceDefinitions selectingDocument) := by decide
    obtain ⟨-, -, -, reloaded, -⟩ := reload_of_compose parse_selectingSource composed
    exact ⟨_, parse_selectingSource, composed, fun loaded isLoaded =>
      inTheWay ((reloaded loaded).mp isLoaded).1⟩

end FederationSplit.Generation
