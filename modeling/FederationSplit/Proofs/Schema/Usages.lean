import FederationSplit.Syntax.Document

namespace FederationSplit.Syntax

variable (change : List DirectiveUsage → List DirectiveUsage)

def InputValueDefinition.mapUsages (definition : InputValueDefinition) : InputValueDefinition :=
  { definition with directives := change definition.directives }

def FieldDefinition.mapUsages (definition : FieldDefinition) : FieldDefinition :=
  { definition with
    arguments := definition.arguments.map (InputValueDefinition.mapUsages change)
    directives := change definition.directives }

def EnumValueDefinition.mapUsages (definition : EnumValueDefinition) : EnumValueDefinition :=
  { definition with directives := change definition.directives }

/-- A body whose fields, arguments, input fields and enumeration values have changed usages. -/
def TypeBody.mapUsages : TypeBody → TypeBody
  | .scalar => .scalar
  | .object interfaces fields => .object interfaces (fields.map (FieldDefinition.mapUsages change))
  | .interface interfaces fields =>
      .interface interfaces (fields.map (FieldDefinition.mapUsages change))
  | .union members => .union members
  | .enum values => .enum (values.map (EnumValueDefinition.mapUsages change))
  | .inputObject fields => .inputObject (fields.map (InputValueDefinition.mapUsages change))

@[simp] theorem TypeBody.kind_mapUsages (body : TypeBody) :
    (body.mapUsages change).kind = body.kind := by
  cases body <;> rfl

@[simp] theorem TypeBody.interfaces_mapUsages (body : TypeBody) :
    (body.mapUsages change).interfaces = body.interfaces := by
  cases body <;> rfl

@[simp] theorem TypeBody.fields_mapUsages (body : TypeBody) :
    (body.mapUsages change).fields = body.fields.map (FieldDefinition.mapUsages change) := by
  cases body <;> rfl

/-- A body whose fields, enumeration values and input fields are changed one by one. -/
def TypeBody.mapMembers (onField : FieldDefinition → FieldDefinition)
    (onValue : EnumValueDefinition → EnumValueDefinition)
    (onInput : InputValueDefinition → InputValueDefinition) : TypeBody → TypeBody
  | .scalar => .scalar
  | .object interfaces fields => .object interfaces (fields.map onField)
  | .interface interfaces fields => .interface interfaces (fields.map onField)
  | .union members => .union members
  | .enum values => .enum (values.map onValue)
  | .inputObject fields => .inputObject (fields.map onInput)

theorem TypeBody.mapUsages_eq_mapMembers (body : TypeBody) :
    body.mapUsages change =
      body.mapMembers (FieldDefinition.mapUsages change) (EnumValueDefinition.mapUsages change)
        (InputValueDefinition.mapUsages change) := by
  cases body <;> rfl

section

variable (first second : List DirectiveUsage → List DirectiveUsage)

private theorem InputValueDefinition.mapUsages_mapUsages (definition : InputValueDefinition) :
    (definition.mapUsages first).mapUsages second = definition.mapUsages (second ∘ first) :=
  rfl

private theorem FieldDefinition.mapUsages_mapUsages (definition : FieldDefinition) :
    (definition.mapUsages first).mapUsages second = definition.mapUsages (second ∘ first) := by
  simp only [mapUsages, List.map_map]
  rfl

theorem TypeBody.mapUsages_mapUsages (body : TypeBody) :
    (body.mapUsages first).mapUsages second = body.mapUsages (second ∘ first) := by
  cases body with
  | scalar | union => rfl
  | object interfaces fields | interface interfaces fields =>
      simp only [mapUsages, List.map_map]
      congr 1
      exact List.map_congr_left fun field _ => field.mapUsages_mapUsages first second
  | enum values | inputObject fields =>
      simp only [mapUsages, List.map_map]
      rfl

end

def TypeDefinition.withoutUsages (definition : TypeDefinition) : TypeDefinition :=
  { definition with
    directives := []
    body := definition.body.mapUsages fun _ => [] }

def FieldDefinition.usages (definition : FieldDefinition) : List DirectiveUsage :=
  definition.directives ++ definition.arguments.flatMap (·.directives)

def TypeBody.usages : TypeBody → List DirectiveUsage
  | .scalar | .union _ => []
  | .object _ fields | .interface _ fields => fields.flatMap FieldDefinition.usages
  | .enum values => values.flatMap (·.directives)
  | .inputObject fields => fields.flatMap (·.directives)

def TypeDefinition.usages (definition : TypeDefinition) : List DirectiveUsage :=
  definition.directives ++ definition.body.usages

def DirectiveDefinition.usages (definition : DirectiveDefinition) : List DirectiveUsage :=
  definition.arguments.flatMap (·.directives)

theorem TypeBody.mem_usages_of_field {body : TypeBody} {field : FieldDefinition}
    {usage : DirectiveUsage} (member : field ∈ body.fields) (used : usage ∈ field.usages) :
    usage ∈ body.usages := by
  cases body with
  | object interfaces fields | interface interfaces fields =>
      exact List.mem_flatMap.mpr ⟨field, member, used⟩
  | scalar | union | enum | inputObject => cases member

section

variable (keeps : DirectiveUsage → Bool)

private theorem filter_flatMap_directives {α : Type} (directives : α → List DirectiveUsage)
    (items : List α) :
    (items.flatMap directives).filter keeps =
      items.flatMap fun item => (directives item).filter keeps := by
  rw [List.flatMap, List.filter_flatten, List.map_map]
  rfl

private theorem FieldDefinition.usages_mapUsages_filter (definition : FieldDefinition) :
    (definition.mapUsages (·.filter keeps)).usages = definition.usages.filter keeps := by
  rw [usages, usages, List.filter_append, filter_flatMap_directives, mapUsages, List.flatMap_map]
  rfl

theorem TypeBody.usages_mapUsages_filter (body : TypeBody) :
    (body.mapUsages (·.filter keeps)).usages = body.usages.filter keeps := by
  cases body with
  | scalar | union => rfl
  | object interfaces fields | interface interfaces fields =>
      rw [usages, filter_flatMap_directives, mapUsages, usages, List.flatMap_map]
      simp only [FieldDefinition.usages_mapUsages_filter]
  | enum values | inputObject fields =>
      rw [usages, filter_flatMap_directives, mapUsages, usages, List.flatMap_map]
      rfl

end

section

variable {keeps others : DirectiveUsage → Bool}

private theorem InputValueDefinition.mapUsages_filter_congr {definition : InputValueDefinition}
    (agree : ∀ usage ∈ definition.directives, keeps usage = others usage) :
    definition.mapUsages (·.filter keeps) = definition.mapUsages (·.filter others) := by
  rw [mapUsages, mapUsages, List.filter_congr agree]

private theorem FieldDefinition.mapUsages_filter_congr {definition : FieldDefinition}
    (agree : ∀ usage ∈ definition.usages, keeps usage = others usage) :
    definition.mapUsages (·.filter keeps) = definition.mapUsages (·.filter others) := by
  rw [usages, List.forall_mem_append, List.forall_mem_flatMap] at agree
  have arguments : definition.arguments.map (InputValueDefinition.mapUsages (·.filter keeps)) =
      definition.arguments.map (InputValueDefinition.mapUsages (·.filter others)) :=
    List.map_congr_left fun argument member =>
      InputValueDefinition.mapUsages_filter_congr (agree.2 argument member)
  rw [mapUsages, mapUsages, List.filter_congr agree.1, arguments]

/-- Filters that agree on all usages inside a body make the same of it. -/
theorem TypeBody.mapUsages_filter_congr {body : TypeBody}
    (agree : ∀ usage ∈ body.usages, keeps usage = others usage) :
    body.mapUsages (·.filter keeps) = body.mapUsages (·.filter others) := by
  cases body with
  | scalar | union => rfl
  | object interfaces fields | interface interfaces fields =>
      rw [usages, List.forall_mem_flatMap] at agree
      rw [mapUsages, mapUsages, List.map_congr_left fun field member =>
        FieldDefinition.mapUsages_filter_congr (agree field member)]
  | enum values =>
      rw [usages, List.forall_mem_flatMap] at agree
      have same : ∀ value ∈ values,
          value.mapUsages (·.filter keeps) = value.mapUsages (·.filter others) := by
        intro value member
        rw [EnumValueDefinition.mapUsages, EnumValueDefinition.mapUsages,
          List.filter_congr (agree value member)]
      rw [mapUsages, mapUsages, List.map_congr_left same]
  | inputObject fields =>
      rw [usages, List.forall_mem_flatMap] at agree
      rw [mapUsages, mapUsages, List.map_congr_left fun field member =>
        InputValueDefinition.mapUsages_filter_congr (agree field member)]

end

private theorem FieldDefinition.mapUsages_id (definition : FieldDefinition) :
    definition.mapUsages id = definition := by
  have same : InputValueDefinition.mapUsages id = id := rfl
  rw [mapUsages, same, List.map_id]
  rfl

theorem TypeBody.mapUsages_id (body : TypeBody) : body.mapUsages id = body := by
  cases body with
  | scalar | union => rfl
  | object interfaces fields | interface interfaces fields =>
      rw [mapUsages, List.map_congr_left fun field _ => field.mapUsages_id, List.map_id']
  | enum values =>
      have same : EnumValueDefinition.mapUsages id = id := rfl
      rw [mapUsages, same, List.map_id]
  | inputObject fields =>
      have same : InputValueDefinition.mapUsages id = id := rfl
      rw [mapUsages, same, List.map_id]

theorem TypeBody.mapUsages_filter_of_all {keeps : DirectiveUsage → Bool} {body : TypeBody}
    (stays : ∀ usage ∈ body.usages, keeps usage = true) :
    body.mapUsages (·.filter keeps) = body := by
  have all : body.mapUsages (·.filter fun _ => true) = body.mapUsages id := by
    congr 1
    funext usages
    exact List.filter_eq_self.mpr fun _ _ => rfl
  rw [TypeBody.mapUsages_filter_congr stays, all, TypeBody.mapUsages_id]

end FederationSplit.Syntax
