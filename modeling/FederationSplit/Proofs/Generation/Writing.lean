import FederationSplit.Output.SchemaText
import FederationSplit.Proofs.Federation.SubgraphRules
import FederationSplit.Proofs.Generation.Endings
import FederationSplit.Proofs.Rules.Origins
import FederationSplit.Text.Utf8

namespace FederationSplit.Generation

open FederationSplit.Syntax
open FederationSplit.Schema
open FederationSplit.Rules
open FederationSplit.Federation
open FederationSplit.Settings
open FederationSplit.Output
open FederationSplit.Text

/-- The text of a schema is read as its document, up to where the parts stand in the text. -/
def ReadsBack (schema : SchemaDocument) : Prop :=
  ∃ document, Document.parse schema.print = .ok document ∧
    document.withoutOrigins = schema.toDocument.withoutOrigins

theorem readsBack_iff {schema : SchemaDocument} :
    ReadsBack schema ↔ (Document.parse schema.print).map Document.withoutOrigins =
      .ok schema.toDocument.withoutOrigins := by
  unfold ReadsBack
  cases Document.parse schema.print with
  | error error => exact ⟨nofun, nofun⟩
  | ok document =>
      constructor
      · rintro ⟨other, parsed, same⟩
        rw [Except.ok.inj parsed]
        exact congrArg Except.ok same
      · exact fun same => ⟨document, rfl, Except.ok.inj same⟩

theorem checkText_eq_ok_iff {text : String} {document : Document}
    (parsed : Document.parse text = .ok document) :
    checkText text = .ok () ↔ violations document = [] := by
  rw [← check_eq_ok_nil_iff, checkText, parsed]
  cases checked : check document with
  | error number => simp [checked, Except.mapError, bind, Except.bind]
  | ok found =>
      cases found <;> simp [checked, Except.mapError, bind, Except.bind, pure, Except.pure, throw,
        throwThe, MonadExceptOf.throw]

theorem checkText_print_iff {schema : SchemaDocument} (readsBack : ReadsBack schema) :
    checkText schema.print = .ok () ↔ violations schema.toDocument = [] := by
  obtain ⟨document, parsed, same⟩ := readsBack
  rw [checkText_eq_ok_iff parsed, ← violations_withoutOrigins document, same,
    violations_withoutOrigins]

/--
The text that is generated for a service, without a comment above it, passes the check exactly if
nothing in the subgraph refers to what is lost on the way.
-/
theorem checkText_generate_iff {generator : Generator} {source commandLine output : String}
    {document : Document} (parsed : Document.parse source = .ok document)
    (isService : effectiveKind generator.config.inputKind document = .service)
    (uncommented : generator.config.addGenerationComment.isTruthy = false)
    (generated : generator.generate source commandLine = .ok output)
    (readsBack : ∀ schema, generator.subgraph source = .ok schema → ReadsBack schema) :
    checkText output = .ok () ↔ SelfContained (serviceDefinitions document) := by
  obtain ⟨result, split, rfl⟩ := Generator.generate_ok_iff.mp generated
  have printed : result.printBelow (generator.headerFor commandLine) = result.print := by
    rw [Generator.headerFor, uncommented]
    rfl
  obtain ⟨schema, loaded, transformed⟩ := Generator.subgraph_ok_iff.mp split
  obtain ⟨other, otherParsed, -, fromDocument⟩ := Generator.load_ok_iff.mp loaded
  rw [parsed, Except.ok.injEq] at otherParsed
  subst otherParsed
  rw [loadDocument_ok_iff, if_pos isService] at fromDocument
  obtain ⟨clean, rfl⟩ := fromDocument
  have served := served_serviceDefinitions document
  have accepted := accepted_of_check (compositionProblems_eq_nil clean).1
  rw [printed, checkText_print_iff (readsBack result split),
    transform_supergraph_ok served transformed,
    violations_subgraph_eq_nil_iff generator.config generator.service served accepted]

def hidingSource : String :=
  "directive @cup(size: Int @inaccessible) on OBJECT type Query { cups: Int }"

def hidingDocument : Document where
  definitions :=
    [.directive (directiveOnce "cup"
        [{ parameter "size" (.named "Int") with
            directives := [{ DirectiveUsage.of "inaccessible" [] with origin := some 25 }] }]
        [.object]),
      .type (plainObject "Query" [plainField "cups" (.named "Int")])]

def plainGenerator : Generator where
  config :=
    { Config.default with
      addGenerationComment := .boolean false
      emptyEntityPolicy := .omit }
  service := "cups"

def hidingSubgraph : SchemaDocument where
  types :=
    [plainObject "Query" [plainField "cups" (.named "Int")], linkImport, describedLinkPurpose,
      scalarType anyScalar, scalarType fieldSetScalar]
  directives :=
    [linkDirective (.named "String"),
      directiveOnce "cup"
        [{ parameter "size" (.named "Int") with
            directives := [{ DirectiveUsage.of "inaccessible" [] with origin := some 25 }] }]
        [.object],
      keyDirective, shareableDirective]
  schemaDirectives := [linkUsage "https://specs.apollo.dev/federation/v2.5"]
  rootTypes := { query := some "Query", mutation := none, subscription := none }

def hidingTexts : List String :=
  ["schema @link(url: \"https://specs.apollo.dev/federation/v2.5\") \x7b\n  query: Query\n\x7d",
    "directive @link(url: String, as: String, for: link__Purpose, import: [link__Import]) " ++
      "repeatable on SCHEMA",
    "directive @cup(size: Int @inaccessible) on OBJECT",
    "directive @key(fields: FieldSet!, resolvable: Boolean = true) repeatable on " ++
      "OBJECT | INTERFACE",
    "directive @shareable repeatable on OBJECT | FIELD_DEFINITION",
    "type Query \x7b\n  cups: Int\n\x7d",
    "scalar link__Import",
    describedLinkPurpose.print,
    "scalar _Any",
    "scalar FieldSet"]

theorem eq_of_around {texts others : List String} (place : Nat)
    (before : texts.take place = others.take place) (here : texts[place]? = others[place]?)
    (behind : texts.drop (place + 1) = others.drop (place + 1)) : texts = others := by
  have upTo : texts.take (place + 1) = others.take (place + 1) := by
    rw [List.take_add_one, List.take_add_one, before, here]
  rw [← List.take_append_drop (place + 1) texts, upTo, behind, List.take_append_drop]

-- The long text is the same on both sides and stays unevaluated.
private theorem printDefinitions_hidingSubgraph :
    hidingSubgraph.printDefinitions = hidingTexts :=
  eq_of_around 7 (by decide) rfl (by decide)

private theorem indentFollowing_eq_nil_iff {characters : List Char} :
    indentFollowing characters = [] ↔ characters = [] := by
  fun_cases indentFollowing characters <;> simp

theorem print_purposes (first second : StringLiteral) :
    TypeDefinition.print {
      description := none
      name := "link__Purpose"
      directives := []
      body := .enum [enumValue (some first) "SECURITY", enumValue (some second) "EXECUTION"]
    } =
      "enum " ++ ("link__Purpose " ++ ("\x7b\n" ++ ("  " ++ String.ofList (indentFollowing
        (first.print.toList ++
          ("\nSECURITY\n".toList ++ (second.print.toList ++ "\nEXECUTION".toList))))) ++
        "\n\x7d")) := by
  simp [enumValue, TypeDefinition.print, printType, EnumValueDefinition.print, TypeBody.kind,
    TypeKind.keyword, describe, printUsages, joinNonEmpty, String.intercalate_cons_cons, braced,
    indent, enclose, indentFollowing_eq_nil_iff]

-- Characters are read quickly and string literals slowly, so each text is taken apart first.
private theorem readable_hidingSubgraph :
    ReadsBack hidingSubgraph ∧ (Utf8.encode? hidingSubgraph.print).isSome := by
  have texts : hidingTexts =
      [String.ofList _, String.ofList _ ++ String.ofList _, String.ofList _,
        String.ofList _ ++ String.ofList _, String.ofList _, String.ofList _, String.ofList _,
        describedLinkPurpose.print, String.ofList _, String.ofList _] := rfl
  have purposes : describedLinkPurpose.print = _ :=
    print_purposes ⟨String.ofList _, true⟩ ⟨String.ofList _, true⟩
  rw [readsBack_iff, SchemaDocument.print, printDefinitions_hidingSubgraph, texts, purposes,
    Document.parse, tokens, Utf8.encode?, String.toList_append, String.toList_intercalate]
  simp only [List.map_cons, List.map_nil, String.toList_append, String.toList_ofList,
    String.reduceToList, StringLiteral.print, if_true]
  exact ⟨by decide +kernel, by decide +kernel⟩

theorem readsBack_hidingSubgraph : ReadsBack hidingSubgraph := readable_hidingSubgraph.1

theorem encode?_hidingSubgraph : ∃ bytes, Utf8.encode? hidingSubgraph.print = some bytes :=
  Option.isSome_iff_exists.mp readable_hidingSubgraph.2

private theorem parse_hidingSource : Document.parse hidingSource = .ok hidingDocument := by
  decide +kernel

theorem subgraph_hidingSource :
    plainGenerator.subgraph hidingSource = .ok hidingSubgraph := by
  have served := served_serviceDefinitions hidingDocument
  have clean : compositionProblems (serviceDefinitions hidingDocument) = [] :=
    List.isEmpty_iff.mp (by decide)
  have loaded : plainGenerator.load hidingSource =
      .ok (supergraph "cups" (serviceDefinitions hidingDocument)) := by
    refine Generator.load_ok_iff.mpr ⟨hidingDocument, parse_hidingSource, rfl, ?_⟩
    exact loadDocument_ok_iff.mpr ⟨clean, rfl⟩
  have splittable : Splittable plainGenerator.config
      (supergraph "cups" (serviceDefinitions hidingDocument)) :=
    { query := by decide
      entity := nofun
      unclaimed := unclaimed_supergraph served "cups" _ }
  have transformed := transform_of_splittable
    (distinctNames_supergraph served.distinct "cups") splittable
  refine Generator.subgraph_ok_iff.mpr ⟨_, loaded, transformed.trans ?_⟩
  rfl

/-- The usage on the parameter is kept, although its directive is no longer declared. -/
theorem checkText_hidingSubgraph :
    ∃ output, plainGenerator.generate hidingSource "" = .ok output ∧
      effectiveKind plainGenerator.config.inputKind hidingDocument = .service ∧
      checkText output ≠ .ok () := by
  have generated : plainGenerator.generate hidingSource "" = .ok hidingSubgraph.print :=
    Generator.generate_ok_iff.mpr ⟨hidingSubgraph, subgraph_hidingSource, rfl⟩
  have readsBack : ∀ schema, plainGenerator.subgraph hidingSource = .ok schema →
      ReadsBack schema := by
    intro schema split
    rw [subgraph_hidingSource] at split
    cases split
    exact readsBack_hidingSubgraph
  refine ⟨_, generated, rfl, ?_⟩
  rw [Ne, checkText_generate_iff parse_hidingSource rfl rfl generated readsBack]
  intro contained
  have hides : ((serviceDefinitions hidingDocument).directives.any fun directive =>
      !isCompositionName directive.name && directive.arguments.any fun argument =>
        argument.directives.any (!isOwnUsage ·)) = true := by
    decide
  simp only [List.any_eq_true, Bool.and_eq_true, Bool.not_eq_true'] at hides
  obtain ⟨directive, declared, plain, argument, stated, usage, used, hidden⟩ := hides
  have own := (contained.arguments directive declared plain argument stated).2 usage used
  rw [hidden] at own
  cases own

end FederationSplit.Generation
