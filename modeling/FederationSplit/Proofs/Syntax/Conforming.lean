import FederationSplit.Proofs.Rules.Origins
import FederationSplit.Proofs.Syntax.Runs
import FederationSplit.Proofs.Syntax.SelectionGrammar

namespace FederationSplit.Syntax

namespace Parser

open Grammar

/-- What a parser reads is a phrase of a grammar, up to what is erased of the result. -/
def Conforms {α γ : Type} (erase : α → γ) (grammar : Grammar γ) (parser : Parser α) : Prop :=
  ∀ tokens, Runs false parser tokens fun result rest =>
    ∃ used, tokens = used ++ rest ∧ grammar used (erase result)

section

variable {α β γ : Type} {erase : α → γ} {grammar : Grammar γ} {parser : Parser α}

theorem Conforms.bind {second : α → Parser β} {tokens : List Token}
    {property : β → List Token → Prop} (conforms : Conforms erase grammar parser)
    (continues : ∀ used result rest, tokens = used ++ rest → grammar used (erase result) →
      Runs false (second result) rest property) : Runs false (parser >>= second) tokens property :=
  .bind ((conforms tokens).mono fun result rest ⟨used, same, phrase⟩ =>
    continues used result rest same phrase)

theorem Conforms.mono {stronger : Grammar γ} (conforms : Conforms erase stronger parser)
    (weaker : ∀ used result, stronger used result → grammar used result) :
    Conforms erase grammar parser :=
  fun tokens => (conforms tokens).mono fun _ _ ⟨used, same, phrase⟩ =>
    ⟨used, same, weaker _ _ phrase⟩

theorem runs_itemsUntil (conforms : Conforms erase grammar parser) (closing : Punctuator)
    (bound : Nat) (tokens : List Token) :
    Runs false (itemsUntil closing parser bound) tokens fun results rest =>
      ∃ used, tokens = used ++ .punctuator closing :: rest ∧
        Sequence grammar used (results.map erase) := by
  induction bound generalizing tokens with
  | zero => exact runs_unexpected rfl
  | succ bound induction =>
      refine .bind (runs_skip (fun rest same => .pure ⟨[], same, .nil⟩) fun _ => ?_)
      refine conforms.bind fun used first rest same isItem => .bind ((induction rest).mono ?_)
      rintro others left ⟨more, rfl, areItems⟩
      exact .pure ⟨used ++ more, by simp [same], .cons isItem areItems⟩

theorem conforms_enclosed (conforms : Conforms erase grammar parser)
    (opening closing : Punctuator) :
    Conforms (List.map erase) (Between opening (Sequence grammar) closing)
      (enclosed opening parser closing) := by
  intro tokens
  refine .bind (runs_expect nofun fun inside same => .bind (runs_tokenCount fun _ _ => ?_))
  refine (runs_itemsUntil conforms closing _ inside).mono ?_
  rintro items rest ⟨used, rfl, areItems⟩
  exact ⟨_, by simp [same], .mk areItems⟩

theorem conforms_enclosedSome (conforms : Conforms erase grammar parser)
    (opening closing : Punctuator) :
    Conforms (List.map erase) (Between opening (Items grammar) closing)
      (enclosedSome opening parser closing) := by
  intro tokens
  refine .bind (runs_expect nofun fun inside sameInside => ?_)
  refine conforms.bind fun used first left same isItem => .bind (runs_tokenCount fun _ _ => ?_)
  refine .bind ((runs_itemsUntil conforms closing _ left).mono ?_)
  rintro others rest ⟨more, rfl, areItems⟩
  have items : Items grammar (used ++ more) ((first :: others).map erase) :=
    ⟨.cons isItem areItems, nofun⟩
  exact .pure ⟨_, by simp [sameInside, same], .mk items⟩

theorem conforms_enclosedOption (conforms : Conforms erase grammar parser)
    (opening closing : Punctuator) :
    Conforms (List.map erase) (Optional (Between opening (Items grammar) closing))
      (enclosedOption opening parser closing) := by
  intro tokens
  refine .bind (runs_isNext (.ite (fun _ => ?_) fun _ => .pure ⟨[], rfl, .absent⟩))
  exact (conforms_enclosedSome conforms opening closing).mono (fun _ _ => .present) tokens

end

private theorem conforms_collection {item : Parser Value} {grammar : Grammar Value}
    (conforms : Conforms id grammar item) : Conforms id (Collection grammar) (collection item) := by
  intro tokens
  refine .bind (runs_isNext (.ite (fun _ => ?_) fun _ => ?_))
  · refine (conforms_enclosed conforms _ _).bind fun used items rest same phrase => ?_
    exact .pure ⟨used, same, .list (items.map_id ▸ phrase)⟩
  · have field : Conforms id (ObjectField grammar) (do
        let fieldName ← name
        expect .colon
        pure (fieldName, ← item)) := by
      intro tokens
      refine .bind (runs_name nofun fun text behind same => ?_)
      refine .bind (runs_expect nofun fun following sameBehind => ?_)
      refine conforms.bind fun used value rest sameFollowing phrase => ?_
      exact .pure ⟨_, by simp [same, sameBehind, sameFollowing], .mk phrase⟩
    refine (conforms_enclosed field _ _).bind fun used fields rest same phrase => ?_
    exact .pure ⟨used, same, .object (fields.map_id ▸ phrase)⟩

private theorem conforms_valueOf {nested : Parser Value} {grammar : Grammar Value}
    (conforms : Conforms id grammar nested) :
    Conforms id (ValueOf grammar) (valueOf false nested) := by
  intro tokens
  have single {token : Token} {value : Value} (isNext : tokens.head? = some token)
      (phrase : ValueOf grammar [token] value) :
      Runs false (do advance; pure value) tokens fun result rest =>
        ∃ used, tokens = used ++ rest ∧ ValueOf grammar used (id result) := by
    obtain ⟨rest, rfl⟩ := List.head?_eq_some_iff.mp isNext
    exact .bind (runs_advance (.pure ⟨[token], rfl, phrase⟩))
  refine .bind (runs_peek ?_)
  split
  case h_1 isNext => exact single isNext (.int _)
  case h_2 isNext => exact single isNext (.float _)
  case h_3 isNext => exact single isNext (.string _)
  case h_4 isNext => exact single isNext .isTrue
  case h_5 isNext => exact single isNext .isFalse
  case h_6 isNext => exact single isNext .null
  case h_7 notTrue notFalse notNull isNext =>
    exact single isNext (.enum notTrue notFalse notNull)
  case h_8 | h_9 => exact conforms.mono (fun _ _ => .nested) tokens
  case h_10 =>
    refine .bind (runs_position fun _ => .bind (runs_expect nofun fun behind same => ?_))
    refine .bind (runs_name nofun fun text rest sameBehind => ?_)
    exact .pure ⟨_, by simp [same, sameBehind], .variable text⟩
  case h_11 => exact runs_unexpected rfl

private theorem conforms_valueWithin (depth : Nat) :
    Conforms id (ValueWithin depth) (valueWithin false depth) := by
  induction depth with
  | zero => exact conforms_valueOf fun _ => runs_fail rfl _
  | succ depth induction => exact conforms_valueOf (conforms_collection induction)

private theorem conforms_arguments (depth : Nat) :
    Conforms (List.map Argument.withoutOrigin) (ArgumentsWithin depth) (arguments false depth) := by
  have argument :
      Conforms Argument.withoutOrigin (ArgumentWithin depth) (argument false depth) := by
    intro tokens
    refine .bind (runs_name nofun fun text behind same => ?_)
    refine .bind (runs_expect nofun fun following sameBehind => ?_)
    refine .bind (runs_position fun _ => ?_)
    refine (conforms_valueWithin depth).bind fun used value rest sameFollowing phrase => ?_
    exact .pure ⟨_, by simp [same, sameBehind, sameFollowing], .mk phrase⟩
  exact conforms_enclosedOption argument _ _

private theorem conforms_directiveUsages (depth : Nat) :
    Conforms eraseOrigins (Sequence (UsageWithin depth)) (directiveUsages false depth) := by
  have usage : Conforms DirectiveUsage.withoutOrigin (UsageWithin depth)
      (directiveUsage false depth) := by
    intro tokens
    refine .bind (runs_position fun _ => .bind (runs_expect nofun fun behind same => ?_))
    refine .bind (runs_name nofun fun text following sameBehind => ?_)
    refine (conforms_arguments depth).bind fun used arguments rest sameFollowing phrase => ?_
    exact .pure ⟨_, by simp [same, sameBehind, sameFollowing], .mk phrase⟩
  have within (bound : Nat) : Conforms eraseOrigins (Sequence (UsageWithin depth))
      (directiveUsagesWithin false depth bound) := by
    induction bound with
    | zero => exact fun tokens => .pure ⟨[], rfl, .nil⟩
    | succ bound induction =>
        intro tokens
        refine .bind (runs_isNext (.ite (fun _ => ?_) fun _ => .pure ⟨[], rfl, .nil⟩))
        refine usage.bind fun used first left same isUsage => ?_
        refine induction.bind fun more others rest sameLeft areUsages => ?_
        exact .pure ⟨used ++ more, by simp [same, sameLeft], .cons isUsage areUsages⟩
  exact fun tokens => .bind (runs_tokenCount fun count _ => within count tokens)

def fieldEnding (depth : Nat) (selections : Parser (List Selection))
    (finish : List Argument → List DirectiveUsage → List Selection → Selection) :
    Parser Selection := do
  let given ← arguments false depth
  let directives ← directiveUsages false depth
  if ← isNext .braceOpen then pure (finish given directives (← selections))
  else pure (finish given directives [])

theorem fieldSelection_eq (depth : Nat) (selections : Parser (List Selection)) :
    fieldSelection depth selections = (do
      let first ← name
      if ← skip .colon then
        let fieldName ← name
        fieldEnding depth selections (.field (some first) fieldName)
      else fieldEnding depth selections (.field none first)) := by
  unfold fieldSelection fieldEnding
  refine bind_congr fun first => bind_congr fun isRenamed => ?_
  cases isRenamed <;> rfl

private theorem conforms_fragmentSelection (depth : Nat) {selections : Parser (List Selection)}
    {set : Grammar (List Selection)} (conforms : Conforms selectionsWithoutOrigins set selections)
    (tokens : List Token) :
    Runs false (fragmentSelection depth selections) tokens fun result rest =>
      ∃ used, tokens = used ++ rest ∧
        SelectionOf depth set (.punctuator .spread :: used) result.withoutOrigins := by
  refine .bind (runs_skipKeyword (fun behind same => ?_) fun other => .bind (runs_peek ?_))
  · refine .bind (runs_name nofun fun condition following sameBehind => ?_)
    refine (conforms_directiveUsages depth).bind fun applied _ left sameFollowing areApplied => ?_
    refine conforms.bind fun below _ rest sameLeft isBelow => ?_
    exact .pure ⟨_, by simp [same, sameBehind, sameFollowing, sameLeft],
      .conditionalFragment areApplied isBelow⟩
  · split
    · next text isNext =>
        refine .bind (.bind (runs_peek (.ite (fun _ => runs_unexpected rfl) fun notOn => ?_)))
        refine runs_name nofun fun text following same => ?_
        refine (conforms_directiveUsages depth).bind
          fun applied _ rest sameFollowing areApplied => ?_
        refine .pure ⟨_, by simp [same, sameFollowing], .fragmentSpread ?_ areApplied⟩
        rintro rfl
        exact other (by rw [same, List.head?_cons])
    · refine (conforms_directiveUsages depth).bind fun applied _ left same areApplied => ?_
      refine conforms.bind fun below _ rest sameLeft isBelow => ?_
      exact .pure ⟨_, by simp [same, sameLeft], .fragment areApplied isBelow⟩

private theorem conforms_fieldSelection (depth : Nat) {selections : Parser (List Selection)}
    {set : Grammar (List Selection)} (conforms : Conforms selectionsWithoutOrigins set selections) :
    Conforms Selection.withoutOrigins (SelectionOf depth set)
      (fieldSelection depth selections) := by
  have ending (responseName : Option Name) (fieldName : Name) (tokens names : List Token)
      (phrase : ∀ {given applied below arguments directives selections},
        ArgumentsWithin depth given arguments →
        Sequence (UsageWithin depth) applied directives → Optional set below selections →
          SelectionOf depth set (names ++ (given ++ (applied ++ below)))
            (.field responseName fieldName arguments directives selections)) :
      Runs false (fieldEnding depth selections (.field responseName fieldName)) tokens
        fun result rest => ∃ used, names ++ tokens = used ++ rest ∧
          SelectionOf depth set used result.withoutOrigins := by
    refine (conforms_arguments depth).bind fun given _ behind same isGiven => ?_
    refine (conforms_directiveUsages depth).bind fun applied _ left sameBehind areApplied => ?_
    refine .bind (runs_isNext (.ite (fun _ => ?_) fun _ => ?_))
    · refine conforms.bind fun below _ rest sameLeft isBelow => ?_
      exact .pure ⟨_, by simp [same, sameBehind, sameLeft],
        phrase isGiven areApplied (.present isBelow)⟩
    · exact .pure ⟨_, by simp [same, sameBehind], phrase isGiven areApplied .absent⟩
  intro tokens
  rw [fieldSelection_eq]
  refine .bind (runs_name nofun fun first behind same => ?_)
  refine .bind (runs_skip (fun following sameBehind => ?_) fun _ => ?_)
  · refine .bind (runs_name nofun fun second left sameFollowing => ?_)
    rw [same, sameBehind, sameFollowing]
    exact ending (some first) second left [_, _, _] .renamedField
  · rw [same]
    exact ending none first behind [_] .field

private theorem conforms_selection (depth : Nat) {selections : Parser (List Selection)}
    {set : Grammar (List Selection)} (conforms : Conforms selectionsWithoutOrigins set selections) :
    Conforms Selection.withoutOrigins (SelectionOf depth set) (selection depth selections) := by
  intro tokens
  refine .bind (runs_skip (fun behind same => ?_) fun _ =>
    conforms_fieldSelection depth conforms tokens)
  refine (conforms_fragmentSelection depth conforms behind).mono ?_
  rintro result rest ⟨used, rfl, phrase⟩
  exact ⟨_, same, phrase⟩

theorem conforms_selectionSetWithin (depth : Nat) :
    Conforms selectionsWithoutOrigins (SelectionSetWithin depth) (selectionSetWithin depth) := by
  induction depth with
  | zero => exact fun _ => runs_fail rfl _
  | succ depth induction =>
      have set := conforms_enclosedSome (conforms_selection depth induction) .braceOpen .braceClose
      rwa [← funext selectionsWithoutOrigins_eq_map] at set

end Parser

end FederationSplit.Syntax
