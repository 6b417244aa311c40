import FederationSplit.Syntax.Parser

namespace FederationSplit.Syntax

def TokenStream.All (good : Token → Prop) : TokenStream → Prop
  | .token head _ rest => good head ∧ rest.All good
  | _ => True

section

variable {good : Token → Prop} {stream rest : TokenStream}

theorem TokenStream.All.tail (all : stream.All good) (equation : stream.tail = .ok rest) :
    rest.All good := by
  cases stream with
  | finish | fault =>
      cases equation
      trivial
  | token head position following =>
      cases following with
      | fault => cases equation
      | finish | token =>
          cases equation
          exact all.2

theorem TokenStream.All.head {token : Token} (all : stream.All good)
    (found : stream.head? = some token) : good token := by
  cases stream with
  | finish | fault => cases found
  | token head position following =>
      cases found
      exact all.1

end

/-- If a value is one of an enumeration, its name is the text of a good token. -/
def Value.IsTaken (good : Token → Prop) : Value → Prop
  | .enum text => good (.name text)
  | _ => True

namespace Parser

/-- From good tokens, a parser makes results with a property and leaves good tokens. -/
def Reads (good : Token → Prop) {α : Type} (property : α → Prop) (parser : Parser α) : Prop :=
  ∀ count stream, stream.All good → ∀ result rest,
    parser count stream = .ok (result, rest) → property result ∧ rest.All good

abbrev Keeps (good : Token → Prop) {α : Type} (parser : Parser α) : Prop :=
  Reads good (fun _ => True) parser

section

variable {good : Token → Prop} {α β : Type} {property : α → Prop} {other : β → Prop}

theorem Reads.pure {result : α} (holds : property result) :
    Reads good property (Pure.pure result) := by
  rintro count stream all _ _ ⟨⟩
  exact ⟨holds, all⟩

theorem keeps_pure (result : α) : Keeps good (Pure.pure result : Parser α) :=
  Reads.pure trivial

theorem Reads.bind {first : Parser α} {second : α → Parser β} (reads : Reads good property first)
    (continues : ∀ result, property result → Reads good other (second result)) :
    Reads good other (first >>= second) := by
  intro count stream all result rest equation
  change (first count stream >>= fun step => second step.1 count step.2) = _ at equation
  cases step : first count stream with
  | error => rw [step] at equation; cases equation
  | ok step' =>
      rw [step] at equation
      obtain ⟨holds, stepAll⟩ := reads count stream all _ _ step
      exact continues _ holds count _ stepAll result rest equation

theorem Reads.throw (error : SyntaxError) :
    Reads good property (MonadExcept.throw error : Parser α) := by
  rintro _ _ _ _ _ ⟨⟩

theorem Reads.ite {condition : Prop} [Decidable condition] {first second : Parser α}
    (whenTrue : Reads good property first) (whenFalse : Reads good property second) :
    Reads good property (if condition then first else second) := by
  split
  · exact whenTrue
  · exact whenFalse

theorem Reads.branch {condition : Prop} [Decidable condition] {first second : Parser α}
    {next : α → Parser β} (whenTrue : Reads good property first)
    (whenFalse : Reads good property second)
    (continues : ∀ result, Reads good other (next result)) :
    Reads good other (if condition then first >>= next else second >>= next) :=
  .ite (.bind whenTrue fun result _ => continues result)
    (.bind whenFalse fun result _ => continues result)

theorem Reads.keeps {parser : Parser α} (reads : Reads good property parser) :
    Keeps good parser :=
  fun count stream all result rest equation =>
    ⟨trivial, (reads count stream all result rest equation).2⟩

end

variable {good : Token → Prop} {α : Type} {property : α → Prop}

private theorem reads_get : Reads good (·.All good) (get : Parser TokenStream) := by
  rintro count stream all _ _ ⟨⟩
  exact ⟨all, all⟩

private theorem reads_tail {stream : TokenStream} (all : stream.All good) :
    Reads good (·.All good) (liftM stream.tail : Parser TokenStream) := by
  intro count held heldAll result rest equation
  change (stream.tail >>= fun next => _) = _ at equation
  cases step : stream.tail with
  | error => rw [step] at equation; cases equation
  | ok next =>
      rw [step] at equation
      cases equation
      exact ⟨all.tail step, heldAll⟩

private theorem keeps_set {stream : TokenStream} (all : stream.All good) :
    Keeps good (set stream : Parser PUnit) := by
  rintro count _ _ _ _ ⟨⟩
  exact ⟨trivial, all⟩

theorem reads_peek : Reads good (fun found => ∀ token, found = some token → good token) peek :=
  .bind reads_get fun _ all => .pure fun _ found => all.head found

theorem keeps_position : Keeps good position :=
  .bind reads_get fun _ _ => .pure trivial

theorem keeps_tokenCount : Keeps good tokenCount := by
  rintro count stream all _ _ ⟨⟩
  exact ⟨trivial, all⟩

theorem keeps_advance : Keeps good advance :=
  .bind reads_get fun _ all => .bind (reads_tail all) fun _ rest => keeps_set rest

theorem reads_lookahead : Reads good (·.All good) lookahead :=
  .bind reads_get fun _ all => reads_tail all

theorem reads_fail (fault : Fault) : Reads good property (fail fault : Parser α) :=
  .bind keeps_position fun _ _ => .throw _

theorem reads_unexpected : Reads good property (unexpected : Parser α) :=
  .bind reads_peek fun _ _ => reads_fail _

theorem keeps_unexpected : Keeps good (unexpected : Parser α) :=
  reads_unexpected

theorem keeps_skipIf (condition : Token → Bool) : Keeps good (skipIf condition) := by
  refine .bind reads_peek fun found _ => ?_
  cases found with
  | none => exact .pure trivial
  | some token => exact .ite (.bind keeps_advance fun _ _ => .pure trivial) (.pure trivial)

theorem keeps_skip (mark : Punctuator) : Keeps good (skip mark) :=
  keeps_skipIf _

theorem keeps_skipKeyword (word : String) : Keeps good (skipKeyword word) :=
  keeps_skipIf _

theorem keeps_isNext (mark : Punctuator) : Keeps good (isNext mark) :=
  .bind reads_peek fun _ _ => .pure trivial

theorem keeps_expect (mark : Punctuator) : Keeps good (expect mark) :=
  .bind (keeps_skip mark) fun _ _ =>
    .ite (.pure trivial) (.bind reads_peek fun _ _ => reads_fail _)

theorem keeps_keyword (word : String) : Keeps good (keyword word) :=
  .bind (keeps_skipKeyword word) fun _ _ =>
    .ite (.pure trivial) (.bind reads_peek fun _ _ => reads_fail _)

theorem reads_name : Reads good (fun text => good (.name text)) name := by
  refine .bind reads_peek fun found all => ?_
  split
  · exact .bind keeps_advance fun _ _ => .pure (all _ rfl)
  · exact reads_fail _

section

variable {item : Parser α} (reads : Reads good property item)

include reads

theorem reads_itemsUntil (close : Punctuator) (bound : Nat) :
    Reads good (∀ result ∈ ·, property result) (itemsUntil close item bound) := by
  induction bound with
  | zero => exact reads_unexpected
  | succ bound induction =>
      refine .bind (keeps_skip close) fun _ _ => .ite (.pure (List.forall_mem_nil _)) ?_
      exact .bind reads fun _ first => .bind induction fun _ others =>
        .pure (List.forall_mem_cons.mpr ⟨first, others⟩)

theorem reads_enclosed (opening closing : Punctuator) :
    Reads good (∀ result ∈ ·, property result) (enclosed opening item closing) :=
  .bind (keeps_expect opening) fun _ _ => .bind keeps_tokenCount fun _ _ =>
    reads_itemsUntil reads closing _

theorem reads_enclosedSome (opening closing : Punctuator) :
    Reads good (∀ result ∈ ·, property result) (enclosedSome opening item closing) :=
  .bind (keeps_expect opening) fun _ _ => .bind reads fun _ first =>
    .bind keeps_tokenCount fun _ _ => .bind (reads_itemsUntil reads closing _) fun _ others =>
      .pure (List.forall_mem_cons.mpr ⟨first, others⟩)

theorem reads_enclosedOption (opening closing : Punctuator) :
    Reads good (∀ result ∈ ·, property result) (enclosedOption opening item closing) :=
  .bind (keeps_isNext opening) fun _ _ =>
    .ite (reads_enclosedSome reads opening closing) (.pure (List.forall_mem_nil _))

theorem reads_separatedRest (separator : Punctuator) (bound : Nat) :
    Reads good (∀ result ∈ ·, property result) (separatedRest separator item bound) := by
  induction bound with
  | zero => exact .pure (List.forall_mem_nil _)
  | succ bound induction =>
      refine .bind (keeps_skip separator) fun _ _ => .ite ?_ (.pure (List.forall_mem_nil _))
      exact .bind reads fun _ first => .bind induction fun _ others =>
        .pure (List.forall_mem_cons.mpr ⟨first, others⟩)

theorem reads_separated (separator : Punctuator) :
    Reads good (∀ result ∈ ·, property result) (separated separator item) :=
  .bind (keeps_skip separator) fun _ _ => .bind reads fun _ first =>
    .bind keeps_tokenCount fun _ _ => .bind (reads_separatedRest reads separator _) fun _ others =>
      .pure (List.forall_mem_cons.mpr ⟨first, others⟩)

end

/-! ### Values, arguments and directive usages -/

theorem keeps_name : Keeps good name :=
  reads_name.keeps

private theorem reads_collection {item : Parser Value} (reads : Keeps good item) :
    Reads good (Value.IsTaken good) (collection item) := by
  refine .bind (keeps_isNext _) fun _ _ => .ite ?_ ?_
  · exact .bind (reads_enclosed reads _ _) fun _ _ => .pure trivial
  · have field : Keeps good (do
        let fieldName ← name
        expect .colon
        pure (fieldName, ← item)) :=
      .bind keeps_name fun _ _ => .bind (keeps_expect _) fun _ _ => .bind reads fun _ _ =>
        .pure trivial
    exact .bind (reads_enclosed field _ _) fun _ _ => .pure trivial

private theorem reads_variableValue (isConstant : Bool) :
    Reads good (Value.IsTaken good) (variableValue isConstant) := by
  refine .bind keeps_position fun _ _ => .bind (keeps_expect _) fun _ _ => .ite ?_ ?_
  · refine .bind reads_peek fun found _ => ?_
    split <;> exact .throw _
  · exact .bind keeps_name fun _ _ => .pure trivial

private theorem reads_valueOf (isConstant : Bool) {nested : Parser Value}
    (reads : Reads good (Value.IsTaken good) nested) :
    Reads good (Value.IsTaken good) (valueOf isConstant nested) := by
  refine .bind reads_peek fun found all => ?_
  split
  case h_7 => exact .bind keeps_advance fun _ _ => .pure (all _ rfl)
  case h_8 | h_9 => exact reads
  case h_10 => exact reads_variableValue isConstant
  case h_11 => exact reads_unexpected
  all_goals exact .bind keeps_advance fun _ _ => .pure trivial

theorem reads_valueWithin (isConstant : Bool) (depth : Nat) :
    Reads good (Value.IsTaken good) (valueWithin isConstant depth) := by
  induction depth with
  | zero => exact reads_valueOf isConstant (reads_fail _)
  | succ depth induction => exact reads_valueOf isConstant (reads_collection induction.keeps)

theorem keeps_valueWithin (isConstant : Bool) (depth : Nat) :
    Keeps good (valueWithin isConstant depth) :=
  (reads_valueWithin isConstant depth).keeps

theorem keeps_arguments (isConstant : Bool) (depth : Nat) :
    Keeps good (arguments isConstant depth) := by
  have argument : Keeps good (argument isConstant depth) :=
    .bind keeps_name fun _ _ => .bind (keeps_expect _) fun _ _ => .bind keeps_position fun _ _ =>
      .bind (keeps_valueWithin _ _) fun _ _ => .pure trivial
  exact (reads_enclosedOption argument _ _).keeps

theorem keeps_directiveUsages (isConstant : Bool) (depth : Nat) :
    Keeps good (directiveUsages isConstant depth) := by
  have usage : Keeps good (directiveUsage isConstant depth) :=
    .bind keeps_position fun _ _ => .bind (keeps_expect _) fun _ _ => .bind keeps_name fun _ _ =>
      .bind (keeps_arguments _ _) fun _ _ => .pure trivial
  have within (bound : Nat) : Keeps good (directiveUsagesWithin isConstant depth bound) := by
    induction bound with
    | zero => exact .pure trivial
    | succ bound induction =>
        exact .bind (keeps_isNext _) fun _ _ =>
          .ite (.bind usage fun _ _ => .bind induction fun _ _ => .pure trivial) (.pure trivial)
  exact .bind keeps_tokenCount fun _ _ => within _

theorem keeps_outerDirectiveUsages (isConstant : Bool) :
    Keeps good (outerDirectiveUsages isConstant) :=
  keeps_directiveUsages isConstant _

private theorem keeps_typeRefOf {item : Parser TypeRef} (reads : Keeps good item) :
    Keeps good (typeRefOf item) := by
  have ending (type : TypeRef) : Keeps good (do
      if ← skip .bang then pure (.nonNull type) else pure type) :=
    .bind (keeps_skip _) fun _ _ => .ite (.pure trivial) (.pure trivial)
  refine .bind (keeps_skip _) fun _ _ => .ite ?_ ?_
  · exact .bind reads fun _ _ => .bind (keeps_expect _) fun _ _ =>
      .bind (keeps_pure _) fun _ _ => ending _
  · exact .bind keeps_name fun _ _ =>
      .bind (keeps_pure _) fun _ _ => ending _

theorem keeps_typeRef : Keeps good typeRef := by
  have within (depth : Nat) : Keeps good (typeRefWithin depth) := by
    induction depth with
    | zero => exact keeps_typeRefOf (reads_fail _)
    | succ depth induction => exact keeps_typeRefOf induction
  exact within _

private theorem keeps_fragmentName : Keeps good fragmentName :=
  .bind reads_peek fun _ _ => .ite reads_unexpected keeps_name

section

variable {selections : Parser (List Selection)} (reads : Keeps good selections)

include reads

private theorem keeps_fragmentSelection (depth : Nat) :
    Keeps good (fragmentSelection depth selections) := by
  refine .bind (keeps_skipKeyword _) fun _ _ => .ite ?_ (.bind reads_peek fun found _ => ?_)
  · exact .bind keeps_name fun _ _ => .bind (keeps_directiveUsages _ _) fun _ _ =>
      .bind reads fun _ _ => .pure trivial
  · split
    · exact .bind keeps_fragmentName fun _ _ => .bind (keeps_directiveUsages _ _) fun _ _ =>
        .pure trivial
    · exact .bind (keeps_directiveUsages _ _) fun _ _ => .bind reads fun _ _ => .pure trivial

private theorem keeps_fieldSelection (depth : Nat) :
    Keeps good (fieldSelection depth selections) := by
  refine .bind keeps_name fun _ _ => .bind (keeps_skip _) fun isRenamed _ => ?_
  have ending (fieldName : Name) (first : Name) : Keeps good (do
      let fieldArguments ← arguments false depth
      let directives ← directiveUsages false depth
      let inner ← if ← isNext .braceOpen then selections else pure []
      pure (Selection.field (if isRenamed then some first else none) fieldName fieldArguments
        directives inner)) := by
    refine .bind (keeps_arguments _ _) fun _ _ => .bind (keeps_directiveUsages _ _) fun _ _ =>
      .bind (keeps_isNext _) fun _ _ => .ite ?_ ?_
    · exact .bind reads fun _ _ => .pure trivial
    · exact .bind (keeps_pure _) fun _ _ => .pure trivial
  refine .ite ?_ ?_
  · exact .bind keeps_name fun _ _ => ending _ _
  · exact .bind (keeps_pure _) fun _ _ => ending _ _

private theorem keeps_selection (depth : Nat) : Keeps good (selection depth selections) :=
  .bind (keeps_skip _) fun _ _ =>
    .ite (keeps_fragmentSelection reads depth) (keeps_fieldSelection reads depth)

end

private theorem keeps_selectionSet : Keeps good selectionSet := by
  have within (depth : Nat) : Keeps good (selectionSetWithin depth) := by
    induction depth with
    | zero => exact reads_fail _
    | succ depth induction =>
        exact (reads_enclosedSome (keeps_selection induction depth) _ _).keeps
  exact within _

theorem keeps_description : Keeps good description := by
  refine .bind reads_peek fun found _ => ?_
  split
  · exact .bind keeps_advance fun _ _ => .pure trivial
  · exact .pure trivial

private theorem keeps_operationType : Keeps good operationType := by
  refine .bind keeps_position fun _ _ => .bind keeps_name fun _ _ => ?_
  split
  · exact .pure trivial
  · exact .throw _

theorem keeps_defaultValue : Keeps good defaultValue :=
  .bind (keeps_skip _) fun _ _ =>
    .ite (.bind (keeps_valueWithin _ _) fun _ _ => .pure trivial) (.pure trivial)

private theorem keeps_variableDefinition : Keeps good variableDefinition :=
  .bind keeps_description fun _ _ => .bind (keeps_expect _) fun _ _ =>
    .bind keeps_name fun _ _ => .bind (keeps_expect _) fun _ _ => .bind keeps_typeRef fun _ _ =>
      .bind keeps_defaultValue fun _ _ => .bind (keeps_outerDirectiveUsages _) fun _ _ =>
        .pure trivial

private theorem keeps_operationDefinition : Keeps good operationDefinition := by
  refine .bind keeps_description fun _ _ => .bind (keeps_isNext _) fun _ _ => .ite ?_ ?_
  · exact .bind keeps_selectionSet fun _ _ => .pure trivial
  · refine .bind keeps_operationType fun _ _ => .bind reads_peek fun found _ => ?_
    have ending (type : OperationType) (operationName : Option Name) : Keeps good (do
        let variableDefinitions ← enclosedOption .parenOpen variableDefinition .parenClose
        let directives ← outerDirectiveUsages false
        let selections ← selectionSet
        pure ({ type, name := operationName, variableDefinitions, directives, selections } :
          OperationDefinition)) :=
      .bind (reads_enclosedOption keeps_variableDefinition _ _) fun _ _ =>
        .bind (keeps_outerDirectiveUsages _) fun _ _ => .bind keeps_selectionSet fun _ _ =>
          .pure trivial
    split
    · exact .bind keeps_name fun _ _ =>
        .bind (keeps_pure _) fun _ _ => ending _ _
    · exact .bind (keeps_pure _) fun _ _ => ending _ _

private theorem keeps_fragmentDefinition : Keeps good fragmentDefinition :=
  .bind keeps_description fun _ _ => .bind (keeps_keyword _) fun _ _ =>
    .bind keeps_fragmentName fun _ _ => .bind (keeps_keyword _) fun _ _ =>
      .bind keeps_name fun _ _ => .bind (keeps_outerDirectiveUsages _) fun _ _ =>
        .bind keeps_selectionSet fun _ _ => .pure trivial

/-! ### Type system definitions and extensions -/

private theorem keeps_inputValueDefinition : Keeps good inputValueDefinition :=
  .bind keeps_description fun _ _ => .bind keeps_name fun _ _ => .bind (keeps_expect _) fun _ _ =>
    .bind keeps_typeRef fun _ _ => .bind keeps_defaultValue fun _ _ =>
      .bind (keeps_outerDirectiveUsages _) fun _ _ => .pure trivial

private theorem keeps_argumentDefinitions : Keeps good argumentDefinitions :=
  (reads_enclosedOption keeps_inputValueDefinition _ _).keeps

private theorem keeps_fieldDefinitions : Keeps good fieldDefinitions := by
  have field : Keeps good fieldDefinition :=
    .bind keeps_description fun _ _ => .bind keeps_name fun _ _ =>
      .bind keeps_argumentDefinitions fun _ _ => .bind (keeps_expect _) fun _ _ =>
        .bind keeps_typeRef fun _ _ => .bind (keeps_outerDirectiveUsages _) fun _ _ =>
          .pure trivial
  exact (reads_enclosedOption field _ _).keeps

theorem reads_enumValueName : Reads good (fun text => good (.name text)) enumValueName :=
  .bind reads_peek fun _ _ => .ite (reads_fail _) reads_name

private theorem keeps_enumValueDefinition : Keeps good enumValueDefinition :=
  .bind keeps_description fun _ _ => .bind reads_enumValueName fun _ _ =>
    .bind (keeps_outerDirectiveUsages _) fun _ _ => .pure trivial

private theorem keeps_interfaces : Keeps good interfaces :=
  .bind (keeps_skipKeyword _) fun _ _ =>
    .ite (reads_separated keeps_name _).keeps (.pure trivial)

private theorem keeps_unionMembers : Keeps good unionMembers :=
  .bind (keeps_skip _) fun _ _ => .ite (reads_separated keeps_name _).keeps (.pure trivial)

private theorem keeps_typeBody (kind : TypeKind) : Keeps good (typeBody kind) := by
  refine .bind keeps_name fun _ _ => ?_
  cases kind with
  | scalar => exact .bind (keeps_outerDirectiveUsages _) fun _ _ => .pure trivial
  | object | interface =>
      exact .bind keeps_interfaces fun _ _ => .bind (keeps_outerDirectiveUsages _) fun _ _ =>
        .bind keeps_fieldDefinitions fun _ _ => .pure trivial
  | union =>
      exact .bind (keeps_outerDirectiveUsages _) fun _ _ => .bind keeps_unionMembers fun _ _ =>
        .pure trivial
  | enum =>
      exact .bind (keeps_outerDirectiveUsages _) fun _ _ =>
        .bind (reads_enclosedOption keeps_enumValueDefinition _ _) fun _ _ => .pure trivial
  | inputObject =>
      exact .bind (keeps_outerDirectiveUsages _) fun _ _ =>
        .bind (reads_enclosedOption keeps_inputValueDefinition _ _) fun _ _ => .pure trivial

private theorem keeps_typeDefinition (kind : TypeKind) : Keeps good (typeDefinition kind) :=
  .bind keeps_description fun _ _ => .bind (keeps_keyword _) fun _ _ =>
    .bind (keeps_typeBody _) fun _ _ => .pure trivial

private theorem keeps_typeExtension (kind : TypeKind) : Keeps good (typeExtension kind) := by
  refine .bind (keeps_keyword _) fun _ _ => .bind (keeps_keyword _) fun _ _ =>
    .bind (keeps_typeBody _) fun _ _ => ?_
  exact .ite (.bind keeps_unexpected fun _ _ => .pure trivial)
    (.pure trivial)

private theorem keeps_directiveDefinition : Keeps good directiveDefinition := by
  have location : Keeps good directiveLocation := by
    refine .bind keeps_position fun _ _ => .bind keeps_name fun _ _ => ?_
    split
    · exact .pure trivial
    · exact .throw _
  exact .bind keeps_description fun _ _ => .bind (keeps_keyword _) fun _ _ =>
    .bind (keeps_expect _) fun _ _ => .bind keeps_name fun _ _ =>
      .bind keeps_argumentDefinitions fun _ _ => .bind (keeps_skipKeyword _) fun _ _ =>
        .bind (keeps_keyword _) fun _ _ => .bind (reads_separated location _) fun _ _ =>
          .pure trivial

end Parser

def Definition.operationTypes : Definition → List (OperationType × Name)
  | .schema stated | .schemaExtension stated => stated.operationTypes
  | _ => []

namespace Parser

variable {good : Token → Prop}

private theorem reads_operationTypeDefinition :
    Reads good (fun item => good (.name item.2)) operationTypeDefinition :=
  .bind keeps_operationType fun _ _ => .bind (keeps_expect _) fun _ _ =>
    .bind reads_name fun _ named => .pure named

private theorem reads_schemaDefinition :
    Reads good (fun schema => ∀ item ∈ schema.operationTypes, good (.name item.2))
      schemaDefinition :=
  .bind keeps_description fun _ _ => .bind (keeps_keyword _) fun _ _ =>
    .bind (keeps_outerDirectiveUsages _) fun _ _ =>
      .bind (reads_enclosedSome reads_operationTypeDefinition _ _) fun _ named => .pure named

private theorem reads_schemaExtension :
    Reads good (fun schema => ∀ item ∈ schema.operationTypes, good (.name item.2))
      schemaExtension := by
  refine .bind (keeps_keyword _) fun _ _ => .bind (keeps_keyword _) fun _ _ =>
    .bind (keeps_outerDirectiveUsages _) fun _ _ =>
      .bind (reads_enclosedOption reads_operationTypeDefinition _ _) fun _ named => ?_
  exact .ite (.bind keeps_unexpected fun _ _ => .pure named)
    (.pure named)

private theorem reads_extension :
    Reads good (fun definition => ∀ item ∈ definition.operationTypes, good (.name item.2))
      extension := by
  refine .bind reads_lookahead fun stream _ => ?_
  split
  · split
    · exact .bind reads_schemaExtension fun _ named => .pure named
    · exact .bind (keeps_typeExtension _) fun _ _ => .pure (List.forall_mem_nil _)
    · exact .throw _
  · exact .throw _

private theorem reads_definition :
    Reads good (fun definition => ∀ item ∈ definition.operationTypes, good (.name item.2))
      definition := by
  refine .bind (keeps_isNext _) fun _ _ => .ite ?_ ?_
  · exact .bind keeps_operationDefinition fun _ _ => .pure (List.forall_mem_nil _)
  · have described : Keeps good isDescribed := by
      refine .bind reads_peek fun found _ => ?_
      split <;> exact .pure trivial
    refine .bind described fun _ _ => .branch reads_lookahead reads_get fun stream => ?_
    dsimp only
    split
    · split
      · exact .bind reads_schemaDefinition fun _ named => .pure named
      · exact .bind (keeps_typeDefinition _) fun _ _ => .pure (List.forall_mem_nil _)
      · exact .bind keeps_directiveDefinition fun _ _ => .pure (List.forall_mem_nil _)
      · exact .bind keeps_operationDefinition fun _ _ => .pure (List.forall_mem_nil _)
      · exact .bind keeps_fragmentDefinition fun _ _ => .pure (List.forall_mem_nil _)
      · exact .ite (reads_fail _) (.ite reads_extension reads_unexpected)
    · exact reads_fail _
    · exact .throw _

private theorem reads_definitionsWithin (bound : Nat) :
    Reads good
      (fun definitions => ∀ definition ∈ definitions,
        ∀ item ∈ definition.operationTypes, good (.name item.2))
      (definitionsWithin bound) := by
  induction bound with
  | zero => exact .pure (List.forall_mem_nil _)
  | succ bound induction =>
      refine .bind reads_peek fun _ _ => .ite (.pure (List.forall_mem_nil _)) ?_
      exact .bind reads_definition fun _ first => .bind induction fun _ others =>
        .pure (List.forall_mem_cons.mpr ⟨first, others⟩)

private theorem reads_document :
    Reads good
      (fun document => ∀ definition ∈ document.definitions,
        ∀ item ∈ definition.operationTypes, good (.name item.2))
      document :=
  .bind reads_definition fun _ first => .bind keeps_tokenCount fun _ _ =>
    .bind (reads_definitionsWithin _) fun _ others =>
      .pure (List.forall_mem_cons.mpr ⟨first, others⟩)

end Parser

/-- A token that is a name has a text. -/
def Token.IsNamed : Token → Prop
  | .name text => text ≠ ""
  | _ => True

private theorem token_ne_name_of_scanNumber {text : List Char} {lexeme : Lexeme}
    (scanned : scanNumber text = .ok lexeme) (written : Name) :
    lexeme.token ≠ some (.name written) := by
  unfold scanNumber at scanned
  simp only [bind, Except.bind, pure, Except.pure, throw, throwThe, MonadExceptOf.throw]
    at scanned
  repeat' split at scanned
  all_goals cases scanned
  all_goals rintro ⟨⟩

theorem name_of_scanLexeme {first : Char} {rest : List Char} {lexeme : Lexeme} {text : Name}
    (scanned : scanLexeme first rest = .ok lexeme) (named : lexeme.token = some (.name text)) :
    isNameStart first = true ∧ text = String.ofList (first :: rest.takeWhile isNamePart) := by
  unfold scanLexeme at scanned
  simp only [bind, Except.bind, pure, Except.pure] at scanned
  repeat' split at scanned
  all_goals first | exact absurd named (token_ne_name_of_scanNumber scanned text) | cases scanned
  all_goals cases named
  exact ⟨‹_›, rfl⟩

theorem all_tokensFrom {good : Token → Prop}
    (each : ∀ first rest lexeme, scanLexeme first rest = .ok lexeme →
      ∀ token ∈ lexeme.token, good token)
    (text : List Char) (position used : Nat) : (tokensFrom position used text).All good := by
  induction text generalizing position used with
  | nil => cases used <;> exact trivial
  | cons first rest induction =>
      cases used with
      | succ used => exact induction _ _
      | zero =>
          rw [tokensFrom]
          split
          · trivial
          · next token width scanned =>
              cases token with
              | none => exact induction _ _
              | some token => exact ⟨each _ _ _ scanned token rfl, induction _ _⟩

private theorem isNamed_scanLexeme (first : Char) (rest : List Char) (lexeme : Lexeme)
    (scanned : scanLexeme first rest = .ok lexeme) : ∀ token ∈ lexeme.token, token.IsNamed := by
  intro token found
  cases token with
  | name text =>
      rw [(name_of_scanLexeme scanned found).2]
      simp [Token.IsNamed]
  | punctuator | int | float | string => trivial

/-- In a document that is read from a text, root operation types have names. -/
theorem Document.operationTypes_named {text : String} {document : Document}
    (parsed : Document.parse text = .ok document) :
    ∀ definition ∈ document.definitions, ∀ item ∈ definition.operationTypes, item.2 ≠ "" := by
  have named : (tokens text).All Token.IsNamed := all_tokensFrom isNamed_scanLexeme text.toList 0 0
  rw [Document.parse] at parsed
  generalize tokens text = stream at named parsed
  unfold TokenStream.run at parsed
  split at parsed
  · cases parsed
  · change Except.map Prod.fst (Parser.document _ _) = _ at parsed
    cases run : Parser.document stream.length stream with
    | error =>
        rw [run] at parsed
        cases parsed
    | ok result =>
        rw [run] at parsed
        cases parsed
        exact (Parser.reads_document _ _ named _ _ run).1

end FederationSplit.Syntax
