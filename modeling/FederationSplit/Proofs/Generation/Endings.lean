import FederationSplit.Generation.Generator
import FederationSplit.Proofs.Federation.Loading
import FederationSplit.Proofs.Federation.Rewriting

namespace FederationSplit.Federation

open FederationSplit.Syntax
open FederationSplit.Schema
open FederationSplit.Rules
open FederationSplit.Settings

theorem transform_of_queryType?_eq_none {schema : SchemaDocument}
    (distinct : DistinctNames schema.types) (missing : schema.queryType? = none)
    (config : Config) :
    transform config schema = .error (.queryTypeMissing schema.rootTypes.query) := by
  have pruned : (prune config schema).queryType? = none := by
    rw [← Option.not_isSome_iff_eq_none, queryType?_prune_isSome distinct config, missing]
    exact Bool.false_ne_true
  rw [transform_eq distinct, assemble_of_queryType?_eq_none pruned, prune_rootTypes]

theorem transform_error_cases {schema : SchemaDocument} {config : Config} {error : ScaffoldError}
    (distinct : DistinctNames schema.types) (present : schema.queryType?.isSome)
    (failed : transform config schema = .error error) : error = .noEntity ∨ error.IsCollision := by
  rw [← queryType?_prune_isSome distinct config] at present
  obtain ⟨query, found⟩ := Option.isSome_iff_exists.mp present
  rw [transform_eq distinct] at failed
  exact assemble_error_cases (resolves_prune distinct config) found failed

end FederationSplit.Federation

namespace FederationSplit.Generation

open FederationSplit.Syntax
open FederationSplit.Schema
open FederationSplit.Rules
open FederationSplit.Federation
open FederationSplit.Settings

theorem Generator.load_ok_iff {generator : Generator} {source : String}
    {schema : SchemaDocument} :
    generator.load source = .ok schema ↔
      ∃ document, Document.parse source = .ok document ∧
        generator.config.hasUnknownKind = false ∧
        loadDocument generator.config.inputKind generator.service document = .ok schema := by
  unfold Generator.load
  cases parsed : Document.parse source with
  | error error => simp [Except.mapError, bind, Except.bind]
  | ok document =>
      cases unknown : generator.config.hasUnknownKind <;>
        simp [Except.mapError, bind, Except.bind, throw, throwThe, MonadExceptOf.throw]

theorem Generator.subgraph_ok_iff {generator : Generator} {source : String}
    {result : SchemaDocument} :
    generator.subgraph source = .ok result ↔
      ∃ schema, generator.load source = .ok schema ∧
        transform generator.config schema = .ok result := by
  unfold Generator.subgraph
  cases generator.load source with
  | error error => simp [Except.mapError, bind, Except.bind]
  | ok schema =>
      cases transformed : transform generator.config schema <;>
        simp [transformed, Except.mapError, bind, Except.bind]

theorem Generator.generate_ok_iff {generator : Generator} {source commandLine output : String} :
    generator.generate source commandLine = .ok output ↔
      ∃ result, generator.subgraph source = .ok result ∧
        output = result.printBelow (generator.headerFor commandLine) := by
  unfold Generator.generate
  cases generator.subgraph source <;> simp [bind, Except.bind, pure, Except.pure, eq_comm]

/-- A document is loaded although no object type answers queries. -/
def LoadsWithoutQuery (kind : InputKind) (document : Document) : Prop :=
  if effectiveKind kind document = .service then
    compositionProblems (serviceDefinitions document) = [] ∧
      ∀ type ∈ (serviceDefinitions document).types, isKept type = true → type.kind = .object →
        (serviceDefinitions document).rootTypes.query ≠ some type.name
  else
    violations document = [] ∧ (fold document).problems = [] ∧
      (fold document).toSchemaDocument.queryType? = none

theorem loadsWithoutQuery_iff {kind : InputKind} {service : String} {document : Document} :
    LoadsWithoutQuery kind document ↔
      ∃ schema, loadDocument kind service document = .ok schema ∧ schema.queryType? = none := by
  simp only [loadDocument_ok_iff, LoadsWithoutQuery]
  split
  · have missing : (supergraph service (serviceDefinitions document)).queryType? = none ↔
        ∀ type ∈ (serviceDefinitions document).types, isKept type = true → type.kind = .object →
          (serviceDefinitions document).rootTypes.query ≠ some type.name := by
      rw [← Option.not_isSome_iff_eq_none,
        queryType?_supergraph_isSome (served_serviceDefinitions document)]
      simp only [not_exists, not_and]
    constructor
    · rintro ⟨clean, none⟩
      exact ⟨_, ⟨clean, rfl⟩, missing.mpr none⟩
    · rintro ⟨_, ⟨clean, rfl⟩, none⟩
      exact ⟨clean, missing.mp none⟩
  · constructor
    · rintro ⟨clean, sound, none⟩
      exact ⟨_, ⟨clean, sound, rfl⟩, none⟩
    · rintro ⟨_, ⟨clean, sound, rfl⟩, none⟩
      exact ⟨clean, sound, none⟩

/-- An error in the source or in what it leaves to be declared. -/
def GenerationError.IsInvalidSchema : GenerationError → Prop
  | .load .kindUnknown => False
  | .load error => error.obstacle? = none
  | .scaffold error => error = .noEntity ∨ error.IsCollision

section

variable {generator : Generator} {source commandLine : String}

private theorem generate_of_load_error {error : LoadError}
    (failed : generator.load source = .error error) :
    generator.generate source commandLine = .error (.load error) := by
  simp [Generator.generate, Generator.subgraph, failed, Except.mapError, bind, Except.bind]

private theorem generate_of_transform_error {schema : SchemaDocument} {error : ScaffoldError}
    (loaded : generator.load source = .ok schema)
    (failed : transform generator.config schema = .error error) :
    generator.generate source commandLine = .error (.scaffold error) := by
  simp [Generator.generate, Generator.subgraph, loaded, failed, Except.mapError, bind, Except.bind]

/-- Only options that are put in unchecked can leave the kind of the input unknown. -/
private theorem hasUnknownKind_of_load (failed : generator.load source = .error .kindUnknown) :
    generator.config.hasUnknownKind = true := by
  by_contra known
  rw [Bool.not_eq_true] at known
  unfold Generator.load at failed
  rw [known] at failed
  cases parsed : Document.parse source with
  | error error => simp [parsed, Except.mapError, bind, Except.bind] at failed
  | ok document =>
      have loaded : loadDocument generator.config.inputKind generator.service document =
          .error .kindUnknown := by
        simpa [parsed, Except.mapError, bind, Except.bind, pure, Except.pure] using failed
      unfold loadDocument at loaded
      split at loaded
      · cases composed : compose generator.service document <;>
          simp [composed, Except.mapError] at loaded
      · unfold loadSupergraph at loaded
        split at loaded <;> cases loaded

private theorem generate_of_loaded {schema : SchemaDocument}
    (loaded : generator.load source = .ok schema) :
    (schema.queryType? = none ∧ generator.generate source commandLine =
        .error (.scaffold (.queryTypeMissing schema.rootTypes.query))) ∨
      (schema.queryType?.isSome ∧ ∀ error, generator.generate source commandLine = .error error →
        ∃ cause, error = .scaffold cause ∧ (cause = .noEntity ∨ cause.IsCollision)) := by
  obtain ⟨document, -, -, fromDocument⟩ := Generator.load_ok_iff.mp loaded
  have distinct := distinctNames_loadDocument fromDocument
  cases query : schema.queryType? with
  | none =>
      left
      exact ⟨rfl, generate_of_transform_error loaded
        (transform_of_queryType?_eq_none distinct query generator.config)⟩
  | some root =>
      right
      refine ⟨rfl, fun error failed => ?_⟩
      cases transformed : transform generator.config schema with
      | ok subgraph =>
          have done := Generator.subgraph_ok_iff.mpr ⟨schema, loaded, transformed⟩
          rw [Generator.generate_ok_iff.mpr ⟨subgraph, done, rfl⟩] at failed
          cases failed
      | error cause =>
          rw [generate_of_transform_error loaded transformed] at failed
          have present : schema.queryType?.isSome := by
            rw [query]
            rfl
          exact ⟨cause, (Except.error.inj failed).symm,
            transform_error_cases distinct present transformed⟩

private theorem loadsWithoutQuery_source_iff :
    (∃ document, Document.parse source = .ok document ∧
        generator.config.hasUnknownKind = false ∧
        LoadsWithoutQuery generator.config.inputKind document) ↔
      ∃ schema, generator.load source = .ok schema ∧ schema.queryType? = none := by
  simp only [Generator.load_ok_iff]
  constructor
  · rintro ⟨document, parsed, known, without⟩
    obtain ⟨schema, loaded, none⟩ := loadsWithoutQuery_iff.mp without
    exact ⟨schema, ⟨document, parsed, known, loaded⟩, none⟩
  · rintro ⟨schema, ⟨document, parsed, known, loaded⟩, none⟩
    exact ⟨document, parsed, known, loadsWithoutQuery_iff.mpr ⟨schema, loaded, none⟩⟩

/--
Generating ends with an internal error exactly if a source is loaded without an object type for
queries, and never because an entity is not found. Any other error is one in the source, as long as
the kind of the input is known and the error can be reported.
-/
theorem generate_endings (generator : Generator) (source commandLine : String) :
    ((∃ error, generator.generate source commandLine = .error error ∧ error.isInternal = true) ↔
      ∃ document, Document.parse source = .ok document ∧
        generator.config.hasUnknownKind = false ∧
        LoadsWithoutQuery generator.config.inputKind document) ∧
      (∀ name, generator.generate source commandLine ≠
        .error (.scaffold (.entityUnresolved name))) ∧
      ∀ error, generator.generate source commandLine = .error error →
        error.isInternal = false → generator.config.hasUnknownKind = false →
        error.obstacle? = none → error.IsInvalidSchema := by
  rw [loadsWithoutQuery_source_iff]
  cases loaded : generator.load source with
  | error cause =>
      rw [generate_of_load_error loaded]
      refine ⟨?_, nofun, ?_⟩
      · constructor
        · rintro ⟨error, failed, internal⟩
          cases failed
          cases internal
        · rintro ⟨schema, isLoaded, -⟩
          cases isLoaded
      · intro error failed _ known reportable
        cases failed
        cases cause with
        | kindUnknown =>
            rw [hasUnknownKind_of_load loaded] at known
            cases known
        | malformed | rules | unordered | folding | composition => exact reportable
  | ok schema =>
      rcases generate_of_loaded loaded with ⟨missing, failed⟩ | ⟨present, endings⟩
      · rw [failed]
        refine ⟨⟨fun _ => ⟨schema, rfl, missing⟩, fun _ => ⟨_, rfl, rfl⟩⟩, nofun, ?_⟩
        intro error same internal
        cases same
        cases internal
      · have invalid {error : GenerationError}
            (failed : generator.generate source commandLine = .error error) :
            error.isInternal = false ∧ error.IsInvalidSchema := by
          obtain ⟨cause, rfl, ending⟩ := endings error failed
          refine ⟨?_, ending⟩
          rcases ending with rfl | ⟨kind, name, rfl⟩ <;> rfl
        refine ⟨?_, ?_, fun error failed _ _ _ => (invalid failed).2⟩
        · constructor
          · rintro ⟨error, failed, internal⟩
            rw [(invalid failed).1] at internal
            cases internal
          · rintro ⟨other, isLoaded, none⟩
            cases isLoaded
            rw [none] at present
            cases present
        · intro name failed
          have external := (invalid failed).1
          cases external

end

end FederationSplit.Generation
