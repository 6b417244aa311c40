import FederationSplit.Proofs.Federation.Rewriting
import Mathlib.Data.List.Perm.Basic

namespace FederationSplit.Federation

open FederationSplit.Syntax
open FederationSplit.Schema
open FederationSplit.Settings

def mapTypes (change : TypeDefinition → TypeDefinition) (schema : SchemaDocument) :
    SchemaDocument :=
  { schema with types := schema.types.map change }

/-- A change that leaves names and kinds as they are, and the types of a link altogether. -/
structure KeepsIdentity (change : TypeDefinition → TypeDefinition) : Prop where
  name : ∀ type, (change type).name = type.name
  kind : ∀ type, (change type).kind = type.kind
  links : ∀ type ∈ linkTypes, change type = type

def classifiedType (selection : MarkerSelection) (type : TypeDefinition) : TypeDefinition :=
  { type with directives := type.directives ++ classifyType selection type }

def sanitizedType (roots : RootTypes) (type : TypeDefinition) : TypeDefinition :=
  if type.kind = .object && roots.names.contains type.name then { type with directives := [] }
  else type

theorem classify_eq_mapTypes (selection : MarkerSelection) (schema : SchemaDocument) :
    classify selection schema = mapTypes (classifiedType selection) schema := rfl

theorem strip_eq_mapTypes (schema : SchemaDocument) :
    strip schema = mapTypes filterType schema := by
  rw [strip, mapTypes, List.map_congr_left fun type _ => strippedType?_getD type]

theorem sanitizeRoots_eq_mapTypes (schema : SchemaDocument) :
    sanitizeRoots schema = mapTypes (sanitizedType schema.rootTypes) schema := rfl

theorem mapTypes_mapTypes (first second : TypeDefinition → TypeDefinition)
    (schema : SchemaDocument) :
    mapTypes second (mapTypes first schema) = mapTypes (second ∘ first) schema := by
  rw [mapTypes, mapTypes, List.map_map]
  rfl

private theorem kind_of_mem_linkTypes {type : TypeDefinition} (member : type ∈ linkTypes) :
    type.kind ≠ .object := by
  revert type
  decide

theorem keepsIdentity_classifiedType (selection : MarkerSelection) :
    KeepsIdentity (classifiedType selection) where
  name _ := rfl
  kind _ := rfl
  links type member := by
    rw [classifiedType, classifyType_of_kind_ne (kind_of_mem_linkTypes member), List.append_nil]

theorem keepsIdentity_filterType : KeepsIdentity filterType where
  name _ := rfl
  kind type := kind_filterBody type.body
  links := by
    rw [linkTypes, List.forall_mem_cons, List.forall_mem_singleton]
    exact ⟨rfl, rfl⟩

theorem keepsIdentity_sanitizedType (roots : RootTypes) : KeepsIdentity (sanitizedType roots) where
  name type := by
    unfold sanitizedType
    split <;> rfl
  kind type := by
    unfold sanitizedType
    split <;> rfl
  links type member := by
    rw [sanitizedType, decide_eq_false (kind_of_mem_linkTypes member), Bool.false_and]
    exact if_neg Bool.false_ne_true

section

variable {change : TypeDefinition → TypeDefinition} (keeps : KeepsIdentity change)

include keeps

theorem names_mapTypes (schema : SchemaDocument) :
    (mapTypes change schema).types.map (·.name) = schema.types.map (·.name) := by
  rw [mapTypes, List.map_map]
  exact List.map_congr_left fun type _ => keeps.name type

theorem missingLinkTypes_mapTypes (schema : SchemaDocument) :
    missingLinkTypes (mapTypes change schema) = missingLinkTypes schema := by
  apply List.filter_congr
  intro type _
  rw [SchemaDocument.type?, SchemaDocument.type?, Bool.eq_iff_iff, Option.isNone_iff_eq_none,
    Option.isNone_iff_eq_none, findType?_eq_none_iff, findType?_eq_none_iff,
    names_mapTypes keeps]

theorem annotate_mapTypes (url : String) (schema : SchemaDocument) :
    annotate url (mapTypes change schema) = mapTypes change (annotate url schema) := by
  have links : (missingLinkTypes schema).map change = missingLinkTypes schema :=
    (List.map_congr_left fun type member =>
      keeps.links type (List.mem_of_mem_filter member)).trans (List.map_id' _)
  rw [annotate_eq, annotate_eq, missingLinkTypes_mapTypes keeps]
  simp only [mapTypes, List.map_append, links]
  rfl

theorem eliminate_mapTypes (schema : SchemaDocument) :
    eliminate (mapTypes change schema) = mapTypes change (eliminate schema) := by
  have same : ((!isCompositionType ·) ∘ change) = (!isCompositionType ·) := by
    funext type
    rw [Function.comp_apply, isCompositionType_congr (keeps.name type) (keeps.kind type)]
  rw [eliminate, mapTypes, List.filter_map, same]
  rfl

end

/-! ### Laws of the steps -/

theorem missingLinkTypes_eliminate (schema : SchemaDocument) :
    missingLinkTypes (eliminate schema) = missingLinkTypes schema := by
  have plain : ∀ type ∈ linkTypes, isCompositionName type.name = false := by decide
  apply List.filter_congr
  intro type member
  rw [SchemaDocument.type?, SchemaDocument.type?, Bool.eq_iff_iff, Option.isNone_iff_eq_none,
    Option.isNone_iff_eq_none, findType?_eq_none_iff, findType?_eq_none_iff, not_iff_not]
  exact mem_names_keptTypes (plain type member)

theorem missingLinkDirective_eliminate (schema : SchemaDocument) :
    missingLinkDirective (eliminate schema) = missingLinkDirective schema := by
  have same : (eliminate schema).directive? "link" = schema.directive? "link" := by
    rw [SchemaDocument.directive?, eliminate, List.find?_filter]
    congr 1
    funext directive
    rw [Bool.eq_iff_iff, decide_eq_true_eq, and_iff_right_iff_imp, beq_iff_eq]
    intro named
    rw [named]
    decide
  rw [missingLinkDirective, same]
  rfl

theorem eliminate_annotate (url : String) (schema : SchemaDocument) :
    eliminate (annotate url schema) = annotate url (eliminate schema) := by
  have types : (missingLinkTypes schema).filter (!isCompositionType ·) =
      missingLinkTypes schema := by
    have survive : ∀ type ∈ linkTypes, (!isCompositionType type) = true := by decide
    exact List.filter_eq_self.mpr fun type member => survive type (List.mem_of_mem_filter member)
  have directives : (missingLinkDirective schema).filter (!isCompositionName ·.name) =
      missingLinkDirective schema := by
    unfold missingLinkDirective
    split <;> rfl
  rw [annotate_eq, annotate_eq, missingLinkTypes_eliminate, missingLinkDirective_eliminate]
  simp only [eliminate, List.filter_append, types, directives]

theorem annotate_idem (url : String) (schema : SchemaDocument) :
    annotate url (annotate url schema) = annotate url schema := by
  have types : missingLinkTypes (annotate url schema) = [] := by
    apply List.filter_eq_nil_iff.mpr
    intro type member
    rw [SchemaDocument.type?, Option.isNone_iff_eq_none, findType?_eq_none_iff, not_not,
      annotate_types, List.map_append, List.mem_append]
    by_cases declared : type.name ∈ schema.types.map (·.name)
    · exact .inl declared
    · refine .inr (List.mem_map_of_mem (List.mem_filter.mpr ⟨member, ?_⟩))
      rw [SchemaDocument.type?, findType?_eq_none_iff.mpr declared]
      rfl
  have directives : missingLinkDirective (annotate url schema) = [] := by
    apply List.eq_nil_iff_forall_not_mem.mpr
    intro directive missing
    obtain ⟨others, -⟩ := mem_missingLinkDirective_iff.mp missing
    rw [annotate_directives, List.forall_mem_append] at others
    have link : linkDirective (required "String") ∈ missingLinkDirective schema :=
      mem_missingLinkDirective_iff.mpr ⟨others.1, rfl⟩
    exact others.2 _ link rfl
  rw [annotate_eq url (annotate url schema), types, directives, List.append_nil, List.append_nil,
    annotate_rootTypes, annotate_types, annotate_directives]
  exact (annotate_eq url schema).symm

theorem withoutArtifacts_idem (usages : List DirectiveUsage) :
    withoutArtifacts (withoutArtifacts usages) = withoutArtifacts usages := by
  simp only [withoutArtifacts, List.filter_filter, Bool.and_self]

theorem filterType_idem (type : TypeDefinition) :
    filterType (filterType type) = filterType type := by
  have same : withoutArtifacts ∘ withoutArtifacts = withoutArtifacts :=
    funext withoutArtifacts_idem
  simp only [filterType, filterBody_eq_mapUsages, TypeBody.mapUsages_mapUsages, same,
    withoutArtifacts_idem]

theorem strip_idem (schema : SchemaDocument) : strip (strip schema) = strip schema := by
  simp only [strip_eq_mapTypes, mapTypes_mapTypes]
  congr 1
  funext type
  exact filterType_idem type

theorem sanitizedType_idem (roots : RootTypes) (type : TypeDefinition) :
    sanitizedType roots (sanitizedType roots type) = sanitizedType roots type := by
  unfold sanitizedType
  split <;> simp_all

theorem sanitizeRoots_idem (schema : SchemaDocument) :
    sanitizeRoots (sanitizeRoots schema) = sanitizeRoots schema := by
  rw [sanitizeRoots_eq_mapTypes, sanitizeRoots_eq_mapTypes, mapTypes_mapTypes]
  congr 1
  funext type
  exact sanitizedType_idem schema.rootTypes type

theorem eliminate_idem (schema : SchemaDocument) :
    eliminate (eliminate schema) = eliminate schema := by
  simp only [eliminate, List.filter_filter, Bool.and_self]

theorem sanitizedType_filterType (roots : RootTypes) (type : TypeDefinition) :
    sanitizedType roots (filterType type) = filterType (sanitizedType roots type) := by
  unfold sanitizedType
  rw [keepsIdentity_filterType.kind, keepsIdentity_filterType.name]
  split <;> rfl

theorem sanitizeRoots_strip (schema : SchemaDocument) :
    sanitizeRoots (strip schema) = strip (sanitizeRoots schema) := by
  simp only [sanitizeRoots_eq_mapTypes, strip_eq_mapTypes, mapTypes_mapTypes]
  congr 1
  funext type
  exact sanitizedType_filterType schema.rootTypes type

theorem strip_annotate (url : String) (schema : SchemaDocument) :
    strip (annotate url schema) = annotate url (strip schema) := by
  rw [strip_eq_mapTypes, strip_eq_mapTypes, annotate_mapTypes keepsIdentity_filterType]

theorem strip_eliminate (schema : SchemaDocument) :
    strip (eliminate schema) = eliminate (strip schema) := by
  rw [strip_eq_mapTypes, strip_eq_mapTypes, eliminate_mapTypes keepsIdentity_filterType]

theorem sanitizeRoots_annotate (url : String) (schema : SchemaDocument) :
    sanitizeRoots (annotate url schema) = annotate url (sanitizeRoots schema) := by
  rw [sanitizeRoots_eq_mapTypes, sanitizeRoots_eq_mapTypes, annotate_rootTypes,
    annotate_mapTypes (keepsIdentity_sanitizedType _)]

theorem sanitizeRoots_eliminate (schema : SchemaDocument) :
    sanitizeRoots (eliminate schema) = eliminate (sanitizeRoots schema) := by
  rw [sanitizeRoots_eq_mapTypes, sanitizeRoots_eq_mapTypes,
    eliminate_mapTypes (keepsIdentity_sanitizedType _)]
  rfl

theorem classify_annotate (selection : MarkerSelection) (url : String) (schema : SchemaDocument) :
    classify selection (annotate url schema) = annotate url (classify selection schema) :=
  (annotate_mapTypes (keepsIdentity_classifiedType selection) url schema).symm

theorem classify_eliminate (selection : MarkerSelection) (schema : SchemaDocument) :
    classify selection (eliminate schema) = eliminate (classify selection schema) :=
  (eliminate_mapTypes (keepsIdentity_classifiedType selection) schema).symm

/-! ### Orders of the steps -/

inductive Pass where
  | annotate
  | classify
  | strip
  | sanitize
  | eliminate
  deriving DecidableEq, Repr

/-- All steps, in the order in which pruning takes them. -/
def pruningOrder : List Pass := [.annotate, .classify, .strip, .sanitize, .eliminate]

section

variable (url : String) (selection : MarkerSelection)

/-- One step, with the entities recorded so far. -/
def Pass.run (pass : Pass) (state : SchemaDocument × EntityRegistry) :
    SchemaDocument × EntityRegistry :=
  match pass with
  | .annotate => (Federation.annotate url state.1, state.2)
  | .classify => (Federation.classify selection state.1, entities selection state.1)
  | .strip => (Federation.strip state.1, state.2)
  | .sanitize => (sanitizeRoots state.1, state.2)
  | .eliminate => (Federation.eliminate state.1, state.2)

def runPasses (passes : List Pass) (schema : SchemaDocument) : SchemaDocument × EntityRegistry :=
  passes.foldl (fun state pass => pass.run url selection state) (schema, .empty)

end

theorem entities_eliminate (selection : MarkerSelection) (schema : SchemaDocument) :
    entities selection (eliminate schema) = entities selection schema := by
  have kept : (schema.types.filter (!isCompositionType ·)).filter (isEntity selection) =
      schema.types.filter (isEntity selection) := by
    rw [List.filter_filter]
    apply List.filter_congr
    intro type _
    rw [Bool.and_eq_left_iff_imp]
    intro entity
    rw [survives_of_kind_object (kind_of_isEntity entity)]
    rfl
  rw [entities, eliminate, kept]
  rfl

section

variable {url : String} {selection : MarkerSelection}

/-- Two steps have the same effect in either order. -/
def Pass.Commutes (url : String) (selection : MarkerSelection) (first second : Pass) : Prop :=
  ∀ state, (second.run url selection (first.run url selection state)) =
    first.run url selection (second.run url selection state)

theorem Pass.Commutes.symm {first second : Pass} (commutes : first.Commutes url selection second) :
    second.Commutes url selection first :=
  fun state => (commutes state).symm

theorem Pass.Commutes.refl (pass : Pass) : pass.Commutes url selection pass :=
  fun _ => rfl

theorem Pass.annotate_commutes (pass : Pass) : Pass.annotate.Commutes url selection pass := by
  intro (schema, registry)
  cases pass with
  | annotate => rfl
  | classify =>
      exact Prod.ext (classify_annotate selection url schema)
        (entities_annotate selection url schema)
  | strip => exact Prod.ext (strip_annotate url schema) rfl
  | sanitize => exact Prod.ext (sanitizeRoots_annotate url schema) rfl
  | eliminate => exact Prod.ext (eliminate_annotate url schema) rfl

theorem Pass.eliminate_commutes (pass : Pass) : Pass.eliminate.Commutes url selection pass := by
  intro (schema, registry)
  cases pass with
  | annotate => exact (Pass.annotate_commutes .eliminate).symm (schema, registry)
  | classify =>
      exact Prod.ext (classify_eliminate selection schema) (entities_eliminate selection schema)
  | strip => exact Prod.ext (strip_eliminate schema) rfl
  | sanitize => exact Prod.ext (sanitizeRoots_eliminate schema) rfl
  | eliminate => rfl

theorem Pass.strip_commutes_sanitize : Pass.strip.Commutes url selection .sanitize :=
  fun (schema, _) => Prod.ext (sanitizeRoots_strip schema) rfl

/-- Only the reading of the markers depends on what is done before it. -/
theorem Pass.commutes_of_ne_classify {first second : Pass} (firstOther : first ≠ .classify)
    (secondOther : second ≠ .classify) : first.Commutes url selection second := by
  cases first with
  | annotate => exact Pass.annotate_commutes second
  | eliminate => exact Pass.eliminate_commutes second
  | classify => exact absurd rfl firstOther
  | strip =>
      cases second with
      | annotate => exact (Pass.annotate_commutes .strip).symm
      | eliminate => exact (Pass.eliminate_commutes .strip).symm
      | classify => exact absurd rfl secondOther
      | strip => exact .refl .strip
      | sanitize => exact Pass.strip_commutes_sanitize
  | sanitize =>
      cases second with
      | annotate => exact (Pass.annotate_commutes .sanitize).symm
      | eliminate => exact (Pass.eliminate_commutes .sanitize).symm
      | classify => exact absurd rfl secondOther
      | strip => exact Pass.strip_commutes_sanitize.symm
      | sanitize => exact .refl .sanitize

theorem run_foldl_comm {pass : Pass} {passes : List Pass}
    (commutes : ∀ other ∈ passes, pass.Commutes url selection other)
    (state : SchemaDocument × EntityRegistry) :
    passes.foldl (fun state other => other.run url selection state)
        (pass.run url selection state) =
      pass.run url selection
        (passes.foldl (fun state other => other.run url selection state) state) := by
  induction passes generalizing state with
  | nil => rfl
  | cons other rest induction =>
      rw [List.forall_mem_cons] at commutes
      rw [List.foldl_cons, List.foldl_cons, commutes.1 state, induction commutes.2]

theorem runPasses_classify_first (front back : List Pass)
    (neutral : ∀ pass ∈ front, pass = .annotate ∨ pass = .eliminate) (schema : SchemaDocument) :
    runPasses url selection (front ++ .classify :: back) schema =
      runPasses url selection (.classify :: (front ++ back)) schema := by
  have commutes : ∀ pass ∈ front, Pass.classify.Commutes url selection pass := by
    intro pass member
    rcases neutral pass member with rfl | rfl
    · exact (Pass.annotate_commutes .classify).symm
    · exact (Pass.eliminate_commutes .classify).symm
  simp only [runPasses, List.foldl_append, List.foldl_cons]
  rw [run_foldl_comm commutes]

theorem runPasses_perm {first second : List Pass} (permuted : first.Perm second)
    (others : ∀ pass ∈ first, pass ≠ .classify) (schema : SchemaDocument) :
    runPasses url selection (.classify :: first) schema =
      runPasses url selection (.classify :: second) schema :=
  permuted.foldl_eq'
    (fun _ firstMember _ secondMember state =>
      Pass.commutes_of_ne_classify (others _ firstMember) (others _ secondMember) state) _

private theorem neutral_of_mem_front {front back : List Pass}
    (distinct : (front ++ Pass.classify :: back).Nodup)
    (beforeStrip : (front ++ .classify :: back).idxOf .classify <
      (front ++ .classify :: back).idxOf .strip)
    (beforeSanitize : (front ++ .classify :: back).idxOf .classify <
      (front ++ .classify :: back).idxOf .sanitize) :
    ∀ pass ∈ front, pass = .annotate ∨ pass = .eliminate := by
  have fresh : Pass.classify ∉ front := fun member =>
    (List.nodup_append.mp distinct).2.2 _ member _ List.mem_cons_self rfl
  have place : (front ++ .classify :: back).idxOf Pass.classify = front.length := by
    rw [List.idxOf_append_of_notMem fresh, List.idxOf_cons_self, Nat.add_zero]
  have later {pass : Pass} (member : pass ∈ front) :
      (front ++ .classify :: back).idxOf pass < front.length := by
    rw [List.idxOf_append_of_mem member]
    exact List.idxOf_lt_length_iff.mpr member
  rw [place] at beforeStrip beforeSanitize
  intro pass member
  cases pass with
  | annotate => exact .inl rfl
  | eliminate => exact .inr rfl
  | classify => exact absurd member fresh
  | strip => exact absurd (later member) (Nat.lt_asymm beforeStrip)
  | sanitize => exact absurd (later member) (Nat.lt_asymm beforeSanitize)

theorem runPasses_of_perm {order : List Pass} (permuted : order.Perm pruningOrder)
    (beforeStrip : order.idxOf .classify < order.idxOf .strip)
    (beforeSanitize : order.idxOf .classify < order.idxOf .sanitize) (schema : SchemaDocument) :
    runPasses url selection order schema = runPasses url selection pruningOrder schema := by
  have present : Pass.classify ∈ order := permuted.mem_iff.mpr (by decide)
  obtain ⟨front, back, rfl⟩ := List.append_of_mem present
  have distinct : (front ++ Pass.classify :: back).Nodup := permuted.nodup_iff.mpr (by decide)
  have neutral := neutral_of_mem_front distinct beforeStrip beforeSanitize
  have others : (front ++ back).Perm [.annotate, .strip, .sanitize, .eliminate] := by
    have first : (Pass.classify :: (front ++ back)).Perm
        [.classify, .annotate, .strip, .sanitize, .eliminate] :=
      List.perm_middle.symm.trans (permuted.trans (.swap ..))
    exact first.cons_inv
  have noClassify : ∀ pass ∈ front ++ back, pass ≠ .classify := by
    have listed : ∀ pass ∈ [Pass.annotate, .strip, .sanitize, .eliminate], pass ≠ .classify := by
      decide
    exact fun pass member => listed pass (others.mem_iff.mp member)
  calc runPasses url selection (front ++ .classify :: back) schema
      = runPasses url selection (.classify :: (front ++ back)) schema :=
        runPasses_classify_first front back neutral schema
    _ = runPasses url selection [.classify, .annotate, .strip, .sanitize, .eliminate] schema :=
        runPasses_perm others noClassify schema
    _ = runPasses url selection pruningOrder schema :=
        (runPasses_classify_first [.annotate] _ (by decide) schema).symm

end

theorem classify_strip (selection : MarkerSelection) (schema : SchemaDocument) :
    classify selection (strip schema) = strip schema := by
  have unmarked (type : TypeDefinition) :
      usagesOf typeMarker (filterType type).directives = [] := by
    apply List.filter_eq_nil_iff.mpr
    intro usage member named
    have kept := (List.mem_filter.mp member).2
    rw [isArtifact, beq_iff_eq.mp named] at kept
    revert kept
    decide
  have unchanged (type : TypeDefinition) :
      classifiedType selection (filterType type) = filterType type := by
    have none : classifyType selection (filterType type) = [] := by
      rw [classifyType, unmarked]
      split
      · cases selection <;> rfl
      · rfl
    rw [classifiedType, none, List.append_nil]
  rw [strip_eq_mapTypes, classify_eq_mapTypes, mapTypes_mapTypes]
  congr 1
  exact funext unchanged

/-- Each step leaves what it has done as it is, also when the others have been taken after it. -/
theorem runPasses_pruningOrder_idem (url : String) (selection : MarkerSelection)
    (schema : SchemaDocument) :
    (runPasses url selection pruningOrder (runPasses url selection pruningOrder schema).1).1 =
      (runPasses url selection pruningOrder schema).1 := by
  let marked := classify selection (annotate url schema)
  let pruned := eliminate (sanitizeRoots (strip marked))
  -- Each step is moved past the others until it stands behind the one that it repeats.
  have annotated : annotate url pruned = pruned := by
    simp only [pruned, marked]
    rw [← eliminate_annotate, ← sanitizeRoots_annotate, ← strip_annotate, ← classify_annotate,
      annotate_idem]
  have classified : classify selection pruned = pruned := by
    simp only [pruned]
    rw [classify_eliminate, sanitizeRoots_strip, classify_strip]
  have stripped : strip pruned = pruned := by
    simp only [pruned]
    rw [strip_eliminate, ← sanitizeRoots_strip, strip_idem]
  have sanitized : sanitizeRoots pruned = pruned := by
    simp only [pruned]
    rw [sanitizeRoots_eliminate, sanitizeRoots_idem]
  change eliminate (sanitizeRoots (strip (classify selection (annotate url pruned)))) = pruned
  rw [annotated, classified, stripped, sanitized]
  exact eliminate_idem _

/--
The steps of pruning have one result in every order in which the markers are read before they are
dropped, and nothing but the reading of the markers does anything when it is repeated.
-/
theorem runPasses_of_order (url : String) (selection : MarkerSelection)
    (schema : SchemaDocument) :
    (∀ order : List Pass, order.Perm pruningOrder →
        order.idxOf .classify < order.idxOf .strip →
        order.idxOf .classify < order.idxOf .sanitize →
        runPasses url selection order schema =
          (eliminate (sanitizeRoots (strip (classify selection (annotate url schema)))),
            entities selection (annotate url schema))) ∧
      annotate url (annotate url schema) = annotate url schema ∧
      strip (strip schema) = strip schema ∧
      sanitizeRoots (sanitizeRoots schema) = sanitizeRoots schema ∧
      eliminate (eliminate schema) = eliminate schema ∧
      eliminate (strip (eliminate (strip schema))) = eliminate (strip schema) ∧
      (runPasses url selection pruningOrder (runPasses url selection pruningOrder schema).1).1 =
        (runPasses url selection pruningOrder schema).1 := by
  refine ⟨?order, annotate_idem url schema, strip_idem schema, sanitizeRoots_idem schema,
    eliminate_idem schema, ?pruning, runPasses_pruningOrder_idem url selection schema⟩
  case order =>
    intro order permuted beforeStrip beforeSanitize
    exact runPasses_of_perm permuted beforeStrip beforeSanitize schema
  case pruning => rw [strip_eliminate, strip_idem, eliminate_idem]

theorem runPasses_labelledSupergraph :
    runPasses Config.default.federationUrl .all
        [.eliminate, .classify, .sanitize, .annotate, .strip]
        (fold labelledSupergraph).toSchemaDocument =
      (eliminate (sanitizeRoots (strip (classify .all (annotate Config.default.federationUrl
          (fold labelledSupergraph).toSchemaDocument)))),
        entities .all (annotate Config.default.federationUrl
          (fold labelledSupergraph).toSchemaDocument)) :=
  (runPasses_of_order Config.default.federationUrl .all
    (fold labelledSupergraph).toSchemaDocument).1
    [.eliminate, .classify, .sanitize, .annotate, .strip] (by decide) (by decide) (by decide)

end FederationSplit.Federation
