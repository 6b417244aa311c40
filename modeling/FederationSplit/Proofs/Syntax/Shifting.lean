import FederationSplit.Proofs.Rules.Origins
import FederationSplit.Syntax.Parser

namespace FederationSplit.Syntax

def TokenStream.withoutPositions : TokenStream → TokenStream
  | .finish _ => .finish 0
  | .fault error => .fault { error with position := 0 }
  | .token head _ rest => .token head 0 rest.withoutPositions

/-- Two streams have the same tokens, and the same end. -/
def TokenStream.Alike (stream other : TokenStream) : Prop :=
  stream.withoutPositions = other.withoutPositions

namespace TokenStream.Alike

variable {stream other : TokenStream}

theorem head?_eq (alike : stream.Alike other) : stream.head? = other.head? := by
  have head (stream : TokenStream) : stream.withoutPositions.head? = stream.head? := by
    cases stream <;> rfl
  rw [← head stream, alike, head other]

theorem length_eq (alike : stream.Alike other) : stream.length = other.length := by
  have length (stream : TokenStream) : stream.withoutPositions.length = stream.length := by
    induction stream with
    | finish | fault => rfl
    | token head position rest induction => exact congrArg (· + 1) induction
  rw [← length stream, alike, length other]

end TokenStream.Alike

/-- What comes of reading, where results are compared by a part and errors by their faults. -/
def outcome (erase : α → β) : Except SyntaxError α → Except Fault β
  | .ok result => .ok (erase result)
  | .error error => .error error.fault

theorem outcome_bind {erase : α → β} {eraseNext : γ → δ} {first second : Except SyntaxError α}
    {next following : α → Except SyntaxError γ}
    (same : outcome erase first = outcome erase second)
    (continues : ∀ result other, erase result = erase other →
      outcome eraseNext (next result) = outcome eraseNext (following other)) :
    outcome eraseNext (first >>= next) = outcome eraseNext (second >>= following) := by
  cases first with
  | error error =>
      cases second with
      | error other => exact congrArg Except.error (Except.error.inj same)
      | ok other => cases same
  | ok result =>
      cases second with
      | error other => cases same
      | ok other => exact continues result other (Except.ok.inj same)

theorem TokenStream.Alike.tail {stream other : TokenStream} (alike : stream.Alike other) :
    outcome withoutPositions stream.tail = outcome withoutPositions other.tail := by
  -- A fault behind the next token is met here, so the two streams are looked at two steps deep.
  have tail (stream : TokenStream) : outcome withoutPositions stream.withoutPositions.tail =
      outcome withoutPositions stream.tail := by
    have twice (stream : TokenStream) :
        stream.withoutPositions.withoutPositions = stream.withoutPositions := by
      induction stream with
      | finish | fault => rfl
      | token head position rest induction => rw [withoutPositions, withoutPositions, induction]
    cases stream with
    | finish | fault => rfl
    | token head position rest =>
        cases rest with
        | finish | fault => rfl
        | token next position rest => exact congrArg Except.ok (twice _)
  rw [← tail stream, alike, tail other]

namespace Parser

def ending (erase : α → β) (step : α × TokenStream) : β × TokenStream :=
  (erase step.1, step.2.withoutPositions)

/-- Two parsers do the same on streams of the same tokens, up to a part of their results. -/
def Agree (erase : α → β) (first second : Parser α) : Prop :=
  ∀ count stream other, stream.Alike other →
    outcome (ending erase) (first count stream) = outcome (ending erase) (second count other)

/-- A parser does the same wherever its tokens stand, up to a part of its results. -/
abbrev Unmoved (erase : α → β) (parser : Parser α) : Prop :=
  Agree erase parser parser

section

variable {α β γ δ : Type} {erase : α → β} {eraseNext : γ → δ}

theorem Agree.pure {result other : α} (same : erase result = erase other) :
    Agree erase (Pure.pure result) (Pure.pure other) := by
  intro count stream otherStream alike
  change Except.ok (erase result, stream.withoutPositions) = Except.ok (erase other, _)
  rw [same, alike]

theorem unmoved_pure (result : α) : Unmoved erase (Pure.pure result) :=
  Agree.pure rfl

theorem Agree.bind {first second : Parser α} {next following : α → Parser γ}
    (agree : Agree erase first second)
    (continues : ∀ result other, erase result = erase other →
      Agree eraseNext (next result) (following other)) :
    Agree eraseNext (first >>= next) (second >>= following) := by
  intro count stream other alike
  refine outcome_bind (agree count stream other alike) fun step otherStep same => ?_
  obtain ⟨sameResult, sameRest⟩ := Prod.mk.inj same
  exact continues _ _ sameResult count _ _ sameRest

theorem Agree.andThen {first second : Parser α} {next following : α → Parser γ}
    (agree : Agree id first second)
    (continues : ∀ result, Agree eraseNext (next result) (following result)) :
    Agree eraseNext (first >>= next) (second >>= following) :=
  agree.bind fun result other same => by
    cases show result = other from same
    exact continues result

theorem Agree.throw {error other : SyntaxError} (same : error.fault = other.fault) :
    Agree erase (MonadExcept.throw error) (MonadExcept.throw other) :=
  fun _ _ _ _ => congrArg Except.error same

theorem Agree.ite {condition : Prop} [Decidable condition] {first second : Parser α}
    {otherFirst otherSecond : Parser α} (whenTrue : Agree erase first otherFirst)
    (whenFalse : Agree erase second otherSecond) :
    Agree erase (if condition then first else second)
      (if condition then otherFirst else otherSecond) := by
  split
  · exact whenTrue
  · exact whenFalse

theorem Agree.branch {condition : Prop} [Decidable condition] {first second : Parser α}
    {next following : α → Parser γ} (whenTrue : Unmoved erase first)
    (whenFalse : Unmoved erase second)
    (continues : ∀ result other, erase result = erase other →
      Agree eraseNext (next result) (following other)) :
    Agree eraseNext (if condition then first >>= next else second >>= next)
      (if condition then first >>= following else second >>= following) :=
  .ite (.bind whenTrue continues) (.bind whenFalse continues)

/-- A part of a result that agrees is found from a larger part. -/
theorem Agree.narrow {first second : Parser α} (agree : Agree erase first second)
    {smaller : α → γ} (found : ∀ result other, erase result = erase other →
      smaller result = smaller other) : Agree smaller first second := by
  have whole : Agree smaller (first >>= Pure.pure) (second >>= Pure.pure) :=
    agree.bind fun result other same => Agree.pure (found result other same)
  simpa only [bind_pure] using whole

end

variable {α β : Type} {erase : α → β}

private theorem unmoved_get : Unmoved TokenStream.withoutPositions get := by
  intro count stream other alike
  change Except.ok (stream.withoutPositions, stream.withoutPositions) = Except.ok (_, _)
  rw [alike]

private theorem unmoved_tail {stream other : TokenStream} (alike : stream.Alike other) :
    Agree TokenStream.withoutPositions (liftM stream.tail) (liftM other.tail) := by
  intro count held otherHeld heldAlike
  exact outcome_bind alike.tail fun _ _ same => congrArg Except.ok (Prod.ext same heldAlike)

private theorem unmoved_set {stream other : TokenStream} (alike : stream.Alike other) :
    Agree id (set stream : Parser PUnit) (set other) :=
  fun _ _ _ _ => congrArg (fun rest => Except.ok (PUnit.unit, rest)) alike

theorem unmoved_peek : Unmoved id peek :=
  .bind unmoved_get fun _ _ alike => .pure (TokenStream.Alike.head?_eq alike)

theorem unmoved_position : Unmoved (fun _ => ()) position :=
  .bind unmoved_get fun _ _ _ => .pure rfl

theorem unmoved_tokenCount : Unmoved id tokenCount :=
  fun count _ _ alike => congrArg (fun rest => Except.ok (count, rest)) alike

theorem unmoved_advance : Unmoved id advance :=
  .bind unmoved_get fun _ _ alike => .bind (unmoved_tail alike) fun _ _ alike => unmoved_set alike

theorem unmoved_lookahead : Unmoved TokenStream.withoutPositions lookahead :=
  .bind unmoved_get fun _ _ alike => unmoved_tail alike

theorem unmoved_fail (fault : Fault) : Unmoved erase (fail fault) :=
  .bind unmoved_position fun _ _ _ => .throw rfl

theorem unmoved_unexpected : Unmoved erase unexpected :=
  .andThen unmoved_peek fun _ => unmoved_fail _

theorem unmoved_skipIf (condition : Token → Bool) :
    Unmoved id (skipIf condition) := by
  refine .andThen unmoved_peek fun found => ?_
  cases found with
  | none => exact unmoved_pure _
  | some token => exact .ite (.andThen unmoved_advance fun _ => unmoved_pure _) (unmoved_pure _)

theorem unmoved_skip (mark : Punctuator) : Unmoved id (skip mark) :=
  unmoved_skipIf _

theorem unmoved_skipKeyword (word : String) : Unmoved id (skipKeyword word) :=
  unmoved_skipIf _

theorem unmoved_isNext (mark : Punctuator) : Unmoved id (isNext mark) :=
  .andThen unmoved_peek fun _ => unmoved_pure _

theorem unmoved_expect (mark : Punctuator) : Unmoved id (expect mark) :=
  .andThen (unmoved_skip mark) fun _ =>
    .ite (unmoved_pure _) (.andThen unmoved_peek fun _ => unmoved_fail _)

theorem unmoved_keyword (word : String) : Unmoved id (keyword word) :=
  .andThen (unmoved_skipKeyword word) fun _ =>
    .ite (unmoved_pure _) (.andThen unmoved_peek fun _ => unmoved_fail _)

theorem unmoved_name : Unmoved id name := by
  refine .andThen unmoved_peek fun found => ?_
  split
  · exact .andThen unmoved_advance fun _ => unmoved_pure _
  · exact unmoved_fail _

section

variable {item : Parser α} (agree : Unmoved erase item)

include agree

theorem unmoved_itemsUntil (close : Punctuator) (bound : Nat) :
    Unmoved (List.map erase) (itemsUntil close item bound) := by
  induction bound with
  | zero => exact unmoved_unexpected
  | succ bound induction =>
      refine .andThen (unmoved_skip close) fun _ => .ite (unmoved_pure _) ?_
      exact .bind agree fun _ _ first => .bind induction fun _ _ others =>
        .pure (congrArg₂ List.cons first others)

theorem unmoved_enclosed (opening closing : Punctuator) :
    Unmoved (List.map erase) (enclosed opening item closing) :=
  .andThen (unmoved_expect opening) fun _ => .andThen unmoved_tokenCount fun _ =>
    unmoved_itemsUntil agree closing _

theorem unmoved_enclosedSome (opening closing : Punctuator) :
    Unmoved (List.map erase) (enclosedSome opening item closing) :=
  .andThen (unmoved_expect opening) fun _ => .bind agree fun _ _ first =>
    .andThen unmoved_tokenCount fun _ => .bind (unmoved_itemsUntil agree closing _)
      fun _ _ others => .pure (congrArg₂ List.cons first others)

theorem unmoved_enclosedOption (opening closing : Punctuator) :
    Unmoved (List.map erase) (enclosedOption opening item closing) :=
  .andThen (unmoved_isNext opening) fun _ =>
    .ite (unmoved_enclosedSome agree opening closing) (unmoved_pure _)

theorem unmoved_separatedRest (separator : Punctuator) (bound : Nat) :
    Unmoved (List.map erase) (separatedRest separator item bound) := by
  induction bound with
  | zero => exact unmoved_pure _
  | succ bound induction =>
      refine .andThen (unmoved_skip separator) fun _ => .ite ?_ (unmoved_pure _)
      exact .bind agree fun _ _ first => .bind induction fun _ _ others =>
        .pure (congrArg₂ List.cons first others)

theorem unmoved_separated (separator : Punctuator) :
    Unmoved (List.map erase) (separated separator item) :=
  .andThen (unmoved_skip separator) fun _ => .bind agree fun _ _ first =>
    .andThen unmoved_tokenCount fun _ => .bind (unmoved_separatedRest agree separator _)
      fun _ _ others => .pure (congrArg₂ List.cons first others)

end

theorem Agree.list {parser : Parser (List α)} (agree : Unmoved (List.map id) parser) :
    Unmoved id parser :=
  agree.narrow fun _ _ same => by rwa [List.map_id, List.map_id] at same

private theorem unmoved_collection {item : Parser Value} (agree : Unmoved id item) :
    Unmoved id (collection item) := by
  refine .andThen (unmoved_isNext _) fun _ => .ite ?_ ?_
  · exact .andThen (unmoved_enclosed agree _ _).list fun _ => unmoved_pure _
  · have field : Unmoved id (do
        let fieldName ← name
        expect .colon
        pure (fieldName, ← item)) :=
      .andThen unmoved_name fun _ => .andThen (unmoved_expect _) fun _ => .andThen agree fun _ =>
        unmoved_pure _
    exact .andThen (unmoved_enclosed field _ _).list fun _ => unmoved_pure _

private theorem unmoved_variableValue (isConstant : Bool) :
    Unmoved id (variableValue isConstant) := by
  refine .bind unmoved_position fun _ _ _ => .andThen (unmoved_expect _) fun _ => .ite ?_ ?_
  · refine .andThen unmoved_peek fun found => ?_
    split <;> exact .throw rfl
  · exact .andThen unmoved_name fun _ => unmoved_pure _

private theorem unmoved_valueOf (isConstant : Bool) {nested : Parser Value}
    (agree : Unmoved id nested) :
    Unmoved id (valueOf isConstant nested) := by
  refine .andThen unmoved_peek fun found => ?_
  split
  case h_8 | h_9 => exact agree
  case h_10 => exact unmoved_variableValue isConstant
  case h_11 => exact unmoved_unexpected
  all_goals exact .andThen unmoved_advance fun _ => unmoved_pure _

theorem unmoved_valueWithin (isConstant : Bool) (depth : Nat) :
    Unmoved id (valueWithin isConstant depth) := by
  induction depth with
  | zero => exact unmoved_valueOf isConstant (unmoved_fail _)
  | succ depth induction => exact unmoved_valueOf isConstant (unmoved_collection induction)

theorem unmoved_arguments (isConstant : Bool) (depth : Nat) :
    Unmoved (List.map Argument.withoutOrigin) (arguments isConstant depth) := by
  have argument : Unmoved Argument.withoutOrigin (argument isConstant depth) :=
    .andThen unmoved_name fun _ => .andThen (unmoved_expect _) fun _ =>
      .bind unmoved_position fun _ _ _ => .andThen (unmoved_valueWithin _ _) fun _ => .pure rfl
  exact unmoved_enclosedOption argument _ _

theorem unmoved_directiveUsages (isConstant : Bool) (depth : Nat) :
    Unmoved eraseOrigins (directiveUsages isConstant depth) := by
  have usage : Unmoved DirectiveUsage.withoutOrigin (directiveUsage isConstant depth) :=
    .bind unmoved_position fun _ _ _ => .andThen (unmoved_expect _) fun _ =>
      .andThen unmoved_name fun name => .bind (unmoved_arguments _ _) fun _ _ arguments =>
        .pure (congrArg (DirectiveUsage.mk name · none) arguments)
  have within (bound : Nat) :
      Unmoved eraseOrigins (directiveUsagesWithin isConstant depth bound) := by
    induction bound with
    | zero => exact unmoved_pure _
    | succ bound induction =>
        refine .andThen (unmoved_isNext _) fun _ => .ite ?_ (unmoved_pure _)
        exact .bind usage fun _ _ first => .bind induction fun _ _ others =>
          .pure (congrArg₂ List.cons first others)
  exact .andThen unmoved_tokenCount fun _ => within _

theorem unmoved_outerDirectiveUsages (isConstant : Bool) :
    Unmoved eraseOrigins (outerDirectiveUsages isConstant) :=
  unmoved_directiveUsages isConstant _

private theorem unmoved_typeRefOf {item : Parser TypeRef} (agree : Unmoved id item) :
    Unmoved id (typeRefOf item) := by
  have ending (type : TypeRef) : Unmoved id (do
      if ← skip .bang then pure (.nonNull type) else pure type) :=
    .andThen (unmoved_skip _) fun _ => .ite (unmoved_pure _) (unmoved_pure _)
  refine .andThen (unmoved_skip _) fun _ => .ite ?_ ?_
  · exact .andThen agree fun _ => .andThen (unmoved_expect _) fun _ =>
      .andThen (unmoved_pure _) fun _ => ending _
  · exact .andThen unmoved_name fun _ => .andThen (unmoved_pure _) fun _ => ending _

theorem unmoved_typeRef : Unmoved id typeRef := by
  have within (depth : Nat) : Unmoved id (typeRefWithin depth) := by
    induction depth with
    | zero => exact unmoved_typeRefOf (unmoved_fail _)
    | succ depth induction => exact unmoved_typeRefOf induction
  exact within _

/-! ### Selections and executable definitions -/

private theorem unmoved_fragmentName : Unmoved id fragmentName :=
  .andThen unmoved_peek fun _ => .ite unmoved_unexpected unmoved_name

section

variable {selections : Parser (List Selection)}
  (agree : Unmoved selectionsWithoutOrigins selections)

include agree

private theorem unmoved_fragmentSelection (depth : Nat) :
    Unmoved Selection.withoutOrigins (fragmentSelection depth selections) := by
  have inline (condition : Option Name) : Unmoved Selection.withoutOrigins (do
      let directives ← directiveUsages false depth
      pure (.inlineFragment condition directives (← selections))) :=
    .bind (unmoved_directiveUsages _ _) fun _ _ directives => .bind agree fun _ _ selections =>
      .pure (congrArg₂ (Selection.inlineFragment condition) directives selections)
  refine .andThen (unmoved_skipKeyword _) fun _ =>
    .ite (.andThen unmoved_name fun _ => inline _) (.andThen unmoved_peek fun found => ?_)
  split
  · exact .andThen unmoved_fragmentName fun fragment => .bind (unmoved_directiveUsages _ _)
      fun _ _ directives => .pure (congrArg (Selection.fragmentSpread fragment) directives)
  · exact inline none

private theorem unmoved_fieldSelection (depth : Nat) :
    Unmoved Selection.withoutOrigins (fieldSelection depth selections) := by
  refine .andThen unmoved_name fun _ => .andThen (unmoved_skip _) fun isRenamed => ?_
  have ending (fieldName : Name) (first : Name) : Unmoved Selection.withoutOrigins (do
      let fieldArguments ← arguments false depth
      let directives ← directiveUsages false depth
      let inner ← if ← isNext .braceOpen then selections else pure []
      pure (Selection.field (if isRenamed then some first else none) fieldName fieldArguments
        directives inner)) := by
    refine .bind (unmoved_arguments _ _) fun given otherGiven arguments =>
      .bind (unmoved_directiveUsages _ _) fun used otherUsed directives =>
        .andThen (unmoved_isNext _) fun _ => ?_
    have done {inner other : List Selection}
        (same : selectionsWithoutOrigins inner = selectionsWithoutOrigins other) :
        Agree Selection.withoutOrigins
          (pure (.field (if isRenamed then some first else none) fieldName given used inner))
          (pure (.field (if isRenamed then some first else none) fieldName otherGiven otherUsed
            other)) :=
      .pure (by simp only [Selection.withoutOrigins, arguments, directives, same])
    exact .ite (.bind agree fun _ _ same => done same)
      (.bind (unmoved_pure _) fun _ _ same => done same)
  refine .ite ?_ ?_
  · exact .andThen unmoved_name fun _ => ending _ _
  · exact .andThen (unmoved_pure _) fun _ => ending _ _

private theorem unmoved_selection (depth : Nat) :
    Unmoved Selection.withoutOrigins (selection depth selections) :=
  .andThen (unmoved_skip _) fun _ =>
    .ite (unmoved_fragmentSelection agree depth) (unmoved_fieldSelection agree depth)

end

private theorem unmoved_selectionSet : Unmoved selectionsWithoutOrigins selectionSet := by
  have within (depth : Nat) : Unmoved selectionsWithoutOrigins (selectionSetWithin depth) := by
    induction depth with
    | zero => exact unmoved_fail _
    | succ depth induction =>
        have selections := unmoved_enclosedSome (unmoved_selection induction depth) .braceOpen
          .braceClose
        refine selections.narrow fun _ _ same => ?_
        rw [selectionsWithoutOrigins_eq_map, selectionsWithoutOrigins_eq_map, same]
  exact within _

theorem unmoved_description : Unmoved id description := by
  refine .andThen unmoved_peek fun found => ?_
  split
  · exact .andThen unmoved_advance fun _ => unmoved_pure _
  · exact unmoved_pure _

private theorem unmoved_operationType : Unmoved id operationType := by
  refine .bind unmoved_position fun _ _ _ => .andThen unmoved_name fun _ => ?_
  split
  · exact unmoved_pure _
  · exact .throw rfl

theorem unmoved_defaultValue : Unmoved id defaultValue :=
  .andThen (unmoved_skip _) fun _ =>
    .ite (.andThen (unmoved_valueWithin _ _) fun _ => unmoved_pure _) (unmoved_pure _)

private theorem unmoved_variableDefinition :
    Unmoved VariableDefinition.withoutOrigins variableDefinition :=
  .andThen unmoved_description fun _ => .andThen (unmoved_expect _) fun _ =>
    .andThen unmoved_name fun name => .andThen (unmoved_expect _) fun _ =>
      .andThen unmoved_typeRef fun type => .andThen unmoved_defaultValue fun default =>
        .bind (unmoved_outerDirectiveUsages _) fun _ _ directives =>
          .pure (congrArg (VariableDefinition.mk name type default) directives)

private theorem unmoved_operationDefinition :
    Unmoved OperationDefinition.withoutOrigins operationDefinition := by
  refine .andThen unmoved_description fun _ => .andThen (unmoved_isNext _) fun _ => .ite ?_ ?_
  · exact .bind unmoved_selectionSet fun _ _ selections =>
      .pure (congrArg (OperationDefinition.mk .query none [] []) selections)
  · refine .andThen unmoved_operationType fun type => .andThen unmoved_peek fun found => ?_
    have ending (operationName : Option Name) : Unmoved OperationDefinition.withoutOrigins (do
        let variableDefinitions ← enclosedOption .parenOpen variableDefinition .parenClose
        let directives ← outerDirectiveUsages false
        let selections ← selectionSet
        pure { type, name := operationName, variableDefinitions, directives, selections }) :=
      .bind (unmoved_enclosedOption unmoved_variableDefinition _ _) fun _ _ declared =>
        .bind (unmoved_outerDirectiveUsages _) fun _ _ directives =>
          .bind unmoved_selectionSet fun _ _ selections => .pure (by
            simp only [OperationDefinition.withoutOrigins, declared, directives, selections])
    split
    · exact .andThen unmoved_name fun _ => .andThen (unmoved_pure _) fun _ => ending _
    · exact .andThen (unmoved_pure _) fun _ => ending _

private theorem unmoved_fragmentDefinition :
    Unmoved FragmentDefinition.withoutOrigins fragmentDefinition :=
  .andThen unmoved_description fun _ => .andThen (unmoved_keyword _) fun _ =>
    .andThen unmoved_fragmentName fun name => .andThen (unmoved_keyword _) fun _ =>
      .andThen unmoved_name fun condition => .bind (unmoved_outerDirectiveUsages _)
        fun _ _ directives => .bind unmoved_selectionSet fun _ _ selections =>
          .pure (congrArg₂ (FragmentDefinition.mk name condition) directives selections)

private theorem unmoved_operationTypeDefinition : Unmoved id operationTypeDefinition :=
  .andThen unmoved_operationType fun _ => .andThen (unmoved_expect _) fun _ =>
    .andThen unmoved_name fun _ => unmoved_pure _

private theorem unmoved_inputValueDefinition :
    Unmoved (InputValueDefinition.mapUsages eraseOrigins) inputValueDefinition :=
  .andThen unmoved_description fun text => .andThen unmoved_name fun name =>
    .andThen (unmoved_expect _) fun _ => .andThen unmoved_typeRef fun type =>
      .andThen unmoved_defaultValue fun default => .bind (unmoved_outerDirectiveUsages _)
        fun _ _ directives =>
          .pure (congrArg (InputValueDefinition.mk text name type default) directives)

private theorem unmoved_argumentDefinitions :
    Unmoved (List.map (InputValueDefinition.mapUsages eraseOrigins)) argumentDefinitions :=
  unmoved_enclosedOption unmoved_inputValueDefinition _ _

private theorem unmoved_fieldDefinitions :
    Unmoved (List.map (FieldDefinition.mapUsages eraseOrigins)) fieldDefinitions := by
  have field : Unmoved (FieldDefinition.mapUsages eraseOrigins) fieldDefinition :=
    .andThen unmoved_description fun text => .andThen unmoved_name fun name =>
      .bind unmoved_argumentDefinitions fun _ _ parameters => .andThen (unmoved_expect _) fun _ =>
        .andThen unmoved_typeRef fun type => .bind (unmoved_outerDirectiveUsages _)
          fun _ _ directives => .pure
            (congrArg₂ (FieldDefinition.mk text name · type ·) parameters directives)
  exact unmoved_enclosedOption field _ _

private theorem unmoved_enumValueDefinition :
    Unmoved (EnumValueDefinition.mapUsages eraseOrigins) enumValueDefinition := by
  have value : Unmoved id enumValueName :=
    .andThen unmoved_peek fun _ => .ite (unmoved_fail _) unmoved_name
  exact .andThen unmoved_description fun text => .andThen value fun name =>
    .bind (unmoved_outerDirectiveUsages _) fun _ _ directives =>
      .pure (congrArg (EnumValueDefinition.mk text name) directives)

private theorem unmoved_interfaces : Unmoved id interfaces :=
  .andThen (unmoved_skipKeyword _) fun _ =>
    .ite (unmoved_separated unmoved_name _).list (unmoved_pure _)

private theorem unmoved_unionMembers : Unmoved id unionMembers :=
  .andThen (unmoved_skip _) fun _ =>
    .ite (unmoved_separated unmoved_name _).list (unmoved_pure _)

/-! ### Type system definitions and extensions -/

def typePartsWithoutOrigins (parts : Name × List DirectiveUsage × TypeBody) :
    Name × List DirectiveUsage × TypeBody :=
  (parts.1, eraseOrigins parts.2.1, parts.2.2.mapUsages eraseOrigins)

private theorem unmoved_typeBody (kind : TypeKind) :
    Unmoved typePartsWithoutOrigins (typeBody kind) := by
  refine .andThen unmoved_name fun name => ?_
  cases kind with
  | scalar =>
      exact .bind (unmoved_outerDirectiveUsages _) fun _ _ directives =>
        .pure (congrArg (name, ·, TypeBody.scalar) directives)
  | object =>
      exact .andThen unmoved_interfaces fun interfaces => .bind (unmoved_outerDirectiveUsages _)
        fun _ _ directives => .bind unmoved_fieldDefinitions fun _ _ fields =>
          .pure (congrArg₂ (name, ·, TypeBody.object interfaces ·) directives fields)
  | interface =>
      exact .andThen unmoved_interfaces fun interfaces => .bind (unmoved_outerDirectiveUsages _)
        fun _ _ directives => .bind unmoved_fieldDefinitions fun _ _ fields =>
          .pure (congrArg₂ (name, ·, TypeBody.interface interfaces ·) directives fields)
  | union =>
      exact .bind (unmoved_outerDirectiveUsages _) fun _ _ directives =>
        .andThen unmoved_unionMembers fun members =>
          .pure (congrArg (name, ·, TypeBody.union members) directives)
  | enum =>
      exact .bind (unmoved_outerDirectiveUsages _) fun _ _ directives =>
        .bind (unmoved_enclosedOption unmoved_enumValueDefinition _ _) fun _ _ values =>
          .pure (congrArg₂ (name, ·, TypeBody.enum ·) directives values)
  | inputObject =>
      exact .bind (unmoved_outerDirectiveUsages _) fun _ _ directives =>
        .bind (unmoved_enclosedOption unmoved_inputValueDefinition _ _) fun _ _ fields =>
          .pure (congrArg₂ (name, ·, TypeBody.inputObject ·) directives fields)

private theorem unmoved_typeDefinition (kind : TypeKind) :
    Unmoved TypeDefinition.withoutOrigins (typeDefinition kind) :=
  .andThen unmoved_description fun text => .andThen (unmoved_keyword _) fun _ =>
    .bind (unmoved_typeBody _) fun _ _ same => .pure
      (congrArg (fun parts : Name × List DirectiveUsage × TypeBody =>
        TypeDefinition.mk text parts.1 parts.2.1 parts.2.2) same)

private theorem isEmptyBody_mapUsages (body : TypeBody) :
    isEmptyBody (body.mapUsages eraseOrigins) = isEmptyBody body := by
  cases body <;> simp [isEmptyBody, TypeBody.mapUsages]

private theorem unmoved_typeExtension (kind : TypeKind) :
    Unmoved TypeExtension.withoutOrigins (typeExtension kind) := by
  refine .andThen (unmoved_keyword _) fun _ => .andThen (unmoved_keyword _) fun _ =>
    .bind (unmoved_typeBody _) fun parts other same => ?_
  have adds (parts : Name × List DirectiveUsage × TypeBody) :
      (parts.2.1.isEmpty && isEmptyBody parts.2.2) =
        ((typePartsWithoutOrigins parts).2.1.isEmpty &&
          isEmptyBody (typePartsWithoutOrigins parts).2.2) := by
    rw [typePartsWithoutOrigins, isEmptyBody_mapUsages, eraseOrigins, List.isEmpty_map]
  have done : Agree TypeExtension.withoutOrigins
      (pure ⟨parts.1, parts.2.1, parts.2.2⟩) (pure ⟨other.1, other.2.1, other.2.2⟩) :=
    .pure (congrArg (fun parts : Name × List DirectiveUsage × TypeBody =>
      TypeExtension.mk parts.1 parts.2.1 parts.2.2) same)
  dsimp only
  rw [adds parts, same, ← adds other]
  exact .ite (.andThen unmoved_unexpected fun _ => done) done

private theorem unmoved_schemaDefinition :
    Unmoved SchemaDefinition.withoutOrigins schemaDefinition :=
  .andThen unmoved_description fun text => .andThen (unmoved_keyword _) fun _ =>
    .bind (unmoved_outerDirectiveUsages _) fun _ _ directives =>
      .andThen (unmoved_enclosedSome unmoved_operationTypeDefinition _ _).list fun roots =>
        .pure (congrArg (SchemaDefinition.mk text · roots) directives)

private theorem unmoved_schemaExtension :
    Unmoved SchemaDefinition.withoutOrigins schemaExtension := by
  refine .andThen (unmoved_keyword _) fun _ => .andThen (unmoved_keyword _) fun _ =>
    .bind (unmoved_outerDirectiveUsages _) fun directives other same =>
      .andThen (unmoved_enclosedOption unmoved_operationTypeDefinition _ _).list fun roots => ?_
  have adds (usages : List DirectiveUsage) : usages.isEmpty = (eraseOrigins usages).isEmpty :=
    List.isEmpty_map.symm
  have done : Agree SchemaDefinition.withoutOrigins
      (pure ⟨none, directives, roots⟩) (pure ⟨none, other, roots⟩) :=
    .pure (congrArg (SchemaDefinition.mk none · roots) same)
  dsimp only
  rw [adds directives, same, ← adds other]
  exact .ite (.andThen unmoved_unexpected fun _ => done) done

private theorem unmoved_directiveDefinition :
    Unmoved DirectiveDefinition.withoutOrigins directiveDefinition := by
  have location : Unmoved id directiveLocation := by
    refine .bind unmoved_position fun _ _ _ => .andThen unmoved_name fun _ => ?_
    split
    · exact unmoved_pure _
    · exact .throw rfl
  exact .andThen unmoved_description fun text => .andThen (unmoved_keyword _) fun _ =>
    .andThen (unmoved_expect _) fun _ => .andThen unmoved_name fun name =>
      .bind unmoved_argumentDefinitions fun _ _ parameters =>
        .andThen (unmoved_skipKeyword _) fun isRepeatable => .andThen (unmoved_keyword _) fun _ =>
          .andThen (unmoved_separated location _).list fun locations => .pure
            (congrArg (DirectiveDefinition.mk text name · isRepeatable locations) parameters)

private theorem unmoved_extension : Unmoved Definition.withoutOrigins extension := by
  refine .bind unmoved_lookahead fun stream other alike => ?_
  rw [TokenStream.Alike.head?_eq alike]
  split
  · split
    · exact .bind unmoved_schemaExtension fun _ _ same =>
        .pure (congrArg Definition.schemaExtension same)
    · exact .bind (unmoved_typeExtension _) fun _ _ same =>
        .pure (congrArg Definition.typeExtension same)
    · exact .throw rfl
  · exact .throw rfl

private theorem unmoved_definition : Unmoved Definition.withoutOrigins definition := by
  refine .andThen (unmoved_isNext _) fun _ => .ite ?_ ?_
  · exact .bind unmoved_operationDefinition fun _ _ same =>
      .pure (congrArg Definition.operation same)
  · have described : Unmoved id isDescribed := by
      refine .andThen unmoved_peek fun found => ?_
      split <;> exact unmoved_pure _
    refine .andThen described fun _ =>
      .branch unmoved_lookahead unmoved_get fun stream other alike => ?_
    dsimp only
    rw [TokenStream.Alike.head?_eq alike]
    split
    · split
      · exact .bind unmoved_schemaDefinition fun _ _ same =>
          .pure (congrArg Definition.schema same)
      · exact .bind (unmoved_typeDefinition _) fun _ _ same =>
          .pure (congrArg Definition.type same)
      · exact .bind unmoved_directiveDefinition fun _ _ same =>
          .pure (congrArg Definition.directive same)
      · exact .bind unmoved_operationDefinition fun _ _ same =>
          .pure (congrArg Definition.operation same)
      · exact .bind unmoved_fragmentDefinition fun _ _ same =>
          .pure (congrArg Definition.fragment same)
      · exact .ite (unmoved_fail _) (.ite unmoved_extension unmoved_unexpected)
    · exact unmoved_fail _
    · exact .throw rfl

private theorem unmoved_definitionsWithin (bound : Nat) :
    Unmoved (List.map Definition.withoutOrigins) (definitionsWithin bound) := by
  induction bound with
  | zero => exact unmoved_pure _
  | succ bound induction =>
      refine .andThen unmoved_peek fun _ => .ite (unmoved_pure _) ?_
      exact .bind unmoved_definition fun _ _ first => .bind induction fun _ _ others =>
        .pure (congrArg₂ List.cons first others)

private theorem unmoved_document : Unmoved Document.withoutOrigins document :=
  .bind unmoved_definition fun _ _ first => .andThen unmoved_tokenCount fun _ =>
    .bind (unmoved_definitionsWithin _) fun _ _ others =>
      .pure (congrArg Document.mk (congrArg₂ List.cons first others))

end Parser

/-- Two texts are read as the same document, up to where its parts stand, or with the same fault. -/
def ReadAlike (text other : String) : Prop :=
  outcome Document.withoutOrigins (Document.parse text) =
    outcome Document.withoutOrigins (Document.parse other)

private theorem TokenStream.run_document {stream : TokenStream}
    (unfaulted : ∀ error, stream ≠ .fault error) :
    stream.run Parser.document =
      Parser.document stream.length stream >>= fun step => .ok step.1 := by
  cases stream with
  | fault error => exact absurd rfl (unfaulted error)
  | finish | token => exact map_eq_pure_bind Prod.fst (Parser.document _ _)

/-- Texts of the same tokens are read alike. -/
theorem readAlike_of_tokens {text other : String} (alike : (tokens text).Alike (tokens other)) :
    ReadAlike text other := by
  unfold ReadAlike Document.parse
  generalize tokens text = stream at alike
  generalize tokens other = second at alike
  by_cases faulted : ∃ error, stream = .fault error
  · obtain ⟨error, rfl⟩ := faulted
    cases second with
    | fault => exact congrArg Except.error (SyntaxError.mk.inj (TokenStream.fault.inj alike)).1
    | finish | token => cases alike
  · have unfaulted : ∀ error, second ≠ .fault error := by
      rintro error rfl
      cases stream with
      | fault other => exact faulted ⟨other, rfl⟩
      | finish | token => cases alike
    rw [TokenStream.run_document (not_exists.mp faulted), TokenStream.run_document unfaulted,
      alike.length_eq]
    exact outcome_bind (Parser.unmoved_document _ stream second alike) fun _ _ same =>
      congrArg Except.ok (Prod.mk.inj same).1

end FederationSplit.Syntax
