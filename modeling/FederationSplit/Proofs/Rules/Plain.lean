import FederationSplit.Rules.Check
import Mathlib.Data.List.Nodup

namespace FederationSplit.Rules

open FederationSplit.Syntax

theorem repeatsAfter_eq_nil_iff {α : Type} [BEq α] [LawfulBEq α] {seen items : List α} :
    repeatsAfter seen items = [] ↔ items.Nodup ∧ ∀ item ∈ items, item ∉ seen := by
  induction items generalizing seen with
  | nil => simp [repeatsAfter]
  | cons item rest induction =>
      by_cases known : item ∈ seen
      · simp [repeatsAfter, known]
      · have step : repeatsAfter seen (item :: rest) = repeatsAfter (item :: seen) rest := by
          rw [repeatsAfter, if_neg (by simpa using known)]
        rw [step, induction, List.nodup_cons]
        constructor
        · rintro ⟨distinct, fresh⟩
          refine ⟨⟨fun member => fresh item member List.mem_cons_self, distinct⟩, ?_⟩
          intro other member
          rcases List.mem_cons.mp member with rfl | restMember
          · exact known
          · exact fun seenOther => fresh other restMember (List.mem_cons_of_mem item seenOther)
        · rintro ⟨⟨itemFresh, distinct⟩, fresh⟩
          refine ⟨distinct, ?_⟩
          intro other member seenOther
          rcases List.mem_cons.mp seenOther with rfl | seenBefore
          · exact itemFresh member
          · exact fresh other (List.mem_cons_of_mem item member) seenBefore

theorem duplicates_eq_nil_iff {α : Type} [BEq α] [LawfulBEq α] {items : List α} :
    duplicates items = [] ↔ items.Nodup := by
  rw [duplicates, List.filter_eq_nil_iff, List.nodup_iff_count_le_one]
  constructor
  · intro single item
    by_cases member : item ∈ items
    · simpa using single item (List.mem_eraseDups.mpr member)
    · rw [List.count_eq_zero_of_not_mem member]
      exact Nat.zero_le 1
  · intro single item _
    simpa using single item

def isPlain : Definition → Bool
  | .schema _ | .type _ | .directive _ => true
  | _ => false

/-- Do two definitions define the same thing? -/
def Clash : Definition → Definition → Prop
  | .schema _, .schema _ => True
  | .type type, .type other => type.name = other.name
  | .directive directive, .directive other => directive.name = other.name
  | _, _ => False

theorem mem_typeDefinitions {document : Document} {type : TypeDefinition} :
    type ∈ typeDefinitions document ↔ .type type ∈ document.definitions := by
  rw [typeDefinitions, List.mem_filterMap]
  constructor
  · rintro ⟨definition, member, selected⟩
    cases definition <;> cases selected
    exact member
  · exact fun member => ⟨.type type, member, rfl⟩

theorem mem_directiveDefinitions {document : Document} {directive : DirectiveDefinition} :
    directive ∈ directiveDefinitions document ↔ .directive directive ∈ document.definitions := by
  rw [directiveDefinitions, List.mem_filterMap]
  constructor
  · rintro ⟨definition, member, selected⟩
    cases definition <;> cases selected
    exact member
  · exact fun member => ⟨.directive directive, member, rfl⟩

private theorem forall_not_clash_schema_iff {earlier : List Definition}
    {schema : SchemaDefinition} :
    (∀ other ∈ earlier, ¬ Clash other (.schema schema)) ↔
      earlier.any isSchemaDefinition = false := by
  rw [List.any_eq_false]
  refine forall₂_congr fun other _ => ?_
  cases other <;> simp [Clash, isSchemaDefinition]

private theorem forall_not_clash_type_iff {earlier : List Definition}
    {type : TypeDefinition} :
    (∀ other ∈ earlier, ¬ Clash other (.type type)) ↔
      type.name ∉ typeNames { definitions := earlier } := by
  rw [typeNames, List.mem_map]
  constructor
  · rintro distinct ⟨other, member, sameName⟩
    exact distinct _ (mem_typeDefinitions.mp member) sameName
  · intro fresh other member clash
    cases other with
    | type other => exact fresh ⟨other, mem_typeDefinitions.mpr member, clash⟩
    | schema | directive | schemaExtension | operation | fragment | typeExtension => exact clash

private theorem forall_not_clash_directive_iff {earlier : List Definition}
    {directive : DirectiveDefinition} :
    (∀ other ∈ earlier, ¬ Clash other (.directive directive)) ↔
      (directiveDefinitions { definitions := earlier }).any (·.name == directive.name) = false := by
  rw [List.any_eq_false]
  constructor
  · intro distinct other member sameName
    exact distinct _ (mem_directiveDefinitions.mp member) (beq_iff_eq.mp sameName)
  · intro fresh other member clash
    cases other with
    | directive other =>
        exact fresh other (mem_directiveDefinitions.mpr member) (beq_iff_eq.mpr clash)
    | schema | type | schemaExtension | operation | fragment | typeExtension => exact clash

section

variable {known : Known} {earlier : List Definition}
  (plain : ∀ definition ∈ earlier, isPlain definition = true)

include plain

private theorem schemaParts_eq_nil (none : earlier.any isSchemaDefinition = false) :
    schemaParts earlier = [] := by
  rw [schemaParts, List.filterMap_eq_nil_iff]
  intro definition member
  have noSchema := List.any_eq_false.mp none definition member
  have isPlain := plain definition member
  cases definition with
  | schema => exact absurd rfl noSchema
  | schemaExtension | operation | fragment | typeExtension => cases isPlain
  | type | directive => rfl

private theorem partsOf_eq_nil {name : Name}
    (fresh : name ∉ typeNames { definitions := earlier }) : partsOf name earlier = [] := by
  rw [partsOf, List.filter_eq_nil_iff]
  intro part partMember
  obtain ⟨definition, member, isPart⟩ := List.mem_filterMap.mp partMember
  have isPlain := plain definition member
  cases definition with
  | type type =>
      cases isPart
      intro sameName
      apply fresh
      rw [← beq_iff_eq.mp sameName]
      exact List.mem_map_of_mem (mem_typeDefinitions.mpr member)
  | schema | directive => cases isPart
  | schemaExtension | operation | fragment | typeExtension => cases isPlain

/-- Behind plain definitions only one of the same thing is in the way of a plain definition. -/
theorem checkDefinition_eq_nil_iff {definition : Definition}
    (isPlain : isPlain definition = true) :
    checkDefinition known earlier definition = [] ↔
      (∀ other ∈ earlier, ¬ Clash other definition) ∧
        checkDefinition known [] definition = [] := by
  cases definition with
  | schema schema =>
      rw [forall_not_clash_schema_iff]
      cases first : earlier.any isSchemaDefinition with
      | false => simp [checkDefinition, checkSchemaPart, first, schemaParts_eq_nil plain first,
          show schemaParts [] = [] from rfl]
      | true => simp [checkDefinition, first]
  | type type =>
      rw [forall_not_clash_type_iff]
      by_cases fresh : type.name ∈ typeNames { definitions := earlier }
      · simp [checkDefinition, fresh]
      · have none : partsOf type.name [] = [] := rfl
        simp [checkDefinition, checkMembers, fresh, partsOf_eq_nil plain fresh, none,
          show typeNames { definitions := [] } = [] from rfl]
  | directive directive =>
      rw [forall_not_clash_directive_iff]
      cases first : (directiveDefinitions { definitions := earlier }).any
          (·.name == directive.name) with
      | false => simp [checkDefinition, first,
          show directiveDefinitions { definitions := [] } = [] from rfl]
      | true => simp [checkDefinition, first]
  | schemaExtension | operation | fragment | typeExtension => cases isPlain

end

private theorem checkDefinitions_eq_nil_iff {known : Known} {earlier definitions : List Definition}
    (earlierPlain : ∀ definition ∈ earlier, isPlain definition = true)
    (plain : ∀ definition ∈ definitions, isPlain definition = true) :
    checkDefinitions known earlier definitions = [] ↔
      (∀ other ∈ earlier, ∀ definition ∈ definitions, ¬ Clash other definition) ∧
        definitions.Pairwise (fun other definition => ¬ Clash other definition) ∧
        ∀ definition ∈ definitions, checkDefinition known [] definition = [] := by
  induction definitions generalizing earlier with
  | nil => simp [checkDefinitions]
  | cons head tail induction =>
      have headPlain := plain head List.mem_cons_self
      have nextPlain : ∀ definition ∈ head :: earlier, isPlain definition = true :=
        List.forall_mem_cons.mpr ⟨headPlain, earlierPlain⟩
      have reversedPlain : ∀ definition ∈ earlier.reverse, isPlain definition = true :=
        fun definition member => earlierPlain definition (List.mem_reverse.mp member)
      have tailPlain : ∀ definition ∈ tail, isPlain definition = true :=
        fun definition member => plain definition (List.mem_cons_of_mem head member)
      rw [checkDefinitions, List.append_eq_nil_iff,
        checkDefinition_eq_nil_iff reversedPlain headPlain, induction nextPlain tailPlain]
      simp only [List.mem_reverse, List.forall_mem_cons, List.pairwise_cons]
      constructor
      · rintro ⟨⟨headFresh, headKept⟩, ⟨tailOfHead, tailFresh⟩, tailDistinct, tailKept⟩
        exact ⟨fun other member => ⟨headFresh other member, tailFresh other member⟩,
          ⟨tailOfHead, tailDistinct⟩, headKept, tailKept⟩
      · rintro ⟨fresh, ⟨tailOfHead, tailDistinct⟩, headKept, tailKept⟩
        exact ⟨⟨fun other member => (fresh other member).1, headKept⟩,
          ⟨tailOfHead, fun other member => (fresh other member).2⟩, tailDistinct, tailKept⟩

/-- A plain document keeps the rules when nothing is defined twice and each definition does. -/
theorem violations_eq_nil_iff {document : Document}
    (plain : ∀ definition ∈ document.definitions, isPlain definition = true) :
    violations document = [] ↔
      document.definitions.Pairwise (fun other definition => ¬ Clash other definition) ∧
        ∀ definition ∈ document.definitions,
          checkDefinition (Known.ofDocument document) [] definition = [] := by
  rw [violations, checkDefinitions_eq_nil_iff (List.forall_mem_nil _) plain]
  exact and_iff_right (List.forall_mem_nil _)

theorem check_eq_ok_nil_iff {document : Document} :
    check document = .ok [] ↔ violations document = [] := by
  unfold check
  constructor
  · intro checked
    simp only at checked
    split at checked
    · cases checked
    · exact Except.ok.inj checked
  · intro clean
    simp [clean]

end FederationSplit.Rules
