import FederationSplit.Federation.FieldSet
import FederationSplit.Proofs.Syntax.Accepting
import FederationSplit.Proofs.Syntax.Bracing

namespace FederationSplit.Federation

open FederationSplit.Syntax FederationSplit.Syntax.Parser

private def shorthand (selections : List Selection) : OperationDefinition where
  type := .query
  name := none
  variableDefinitions := []
  directives := []
  selections := selections

private theorem definition_of_brace (count position : Nat) (rest : TokenStream) :
    definition count (.token (.punctuator .braceOpen) position rest) =
      (selectionSet count (.token (.punctuator .braceOpen) position rest)).map fun step =>
        (.operation (shorthand step.1), step.2) := by
  let stream : TokenStream := .token (.punctuator .braceOpen) position rest
  change (selectionSet count stream >>= fun step => Except.ok (shorthand step.1, step.2)) >>=
    (fun step => Except.ok (Definition.operation step.1, step.2)) = _
  cases selectionSet count stream <;> rfl

private theorem document_of_brace (count position : Nat) (rest : TokenStream) :
    document count (.token (.punctuator .braceOpen) position rest) =
      selectionSet count (.token (.punctuator .braceOpen) position rest) >>= fun step =>
        (definitionsWithin count count step.2).map fun others =>
          ({ definitions := .operation (shorthand step.1) :: others.1 }, others.2) := by
  let stream : TokenStream := .token (.punctuator .braceOpen) position rest
  change (definition count stream >>= fun step => definitionsWithin count count step.2 >>=
    fun others => Except.ok (Document.mk (step.1 :: others.1), others.2)) = _
  rw [definition_of_brace]
  cases selectionSet count stream with
  | error => rfl
  | ok step => cases definitionsWithin count count step.2 <;> rfl

private theorem definitionsWithin_eq_nil_iff {bound count : Nat} {stream rest : TokenStream} :
    definitionsWithin (bound + 1) count stream = .ok ([], rest) ↔
      stream.head? = none ∧ rest = stream := by
  constructor
  · intro read
    cases stream with
    | finish | fault =>
        cases read
        exact ⟨rfl, rfl⟩
    | token head position following =>
        change definition count (.token head position following) >>= (fun step =>
          definitionsWithin bound count step.2 >>= fun others =>
            Except.ok (step.1 :: others.1, others.2)) = _ at read
        cases first : definition count (.token head position following) with
        | error =>
            rw [first] at read
            cases read
        | ok step =>
            rw [first] at read
            change definitionsWithin bound count step.2 >>= (fun others =>
              Except.ok (step.1 :: others.1, others.2)) = _ at read
            cases others : definitionsWithin bound count step.2 with
            | error | ok =>
                rw [others] at read
                cases read
  · rintro ⟨none, rfl⟩
    cases rest with
    | finish | fault => rfl
    | token => cases none

private theorem tokens_bracedFieldSet (text : String) :
    tokens (bracedFieldSet text) =
      .token (.punctuator .braceOpen) 0 (tokensFrom 1 0 (closed text.toList)) := by
  have braced : (bracedFieldSet text).toList = '\x7b' :: closed text.toList := by
    simp [bracedFieldSet, closed]
  rw [tokens, braced]
  rfl

private theorem parseFieldSet_eq_ok_iff {text : String} {position : Nat} {rest : TokenStream}
    (braced : tokens (bracedFieldSet text) = .token (.punctuator .braceOpen) position rest)
    (selections : List Selection) :
    parseFieldSet text = .ok selections ↔
      ∃ left, selectionSet (rest.length + 1) (.token (.punctuator .braceOpen) position rest) =
        .ok (selections, left) ∧ left.head? = none := by
  rw [parseFieldSet, Document.parse, braced]
  change ((document (rest.length + 1) _).map Prod.fst).mapError _ >>= _ = _ ↔ _
  rw [document_of_brace]
  cases selectionSet (rest.length + 1) (.token (.punctuator .braceOpen) position rest) with
  | error error => exact iff_of_false nofun nofun
  | ok step =>
      obtain ⟨read, left⟩ := step
      change (((definitionsWithin _ _ left).map _).map Prod.fst).mapError _ >>= _ = _ ↔ _
      cases others : definitionsWithin (rest.length + 1) (rest.length + 1) left with
      | error error =>
          refine iff_of_false nofun ?_
          rintro ⟨_, ⟨⟩, none⟩
          cases (definitionsWithin_eq_nil_iff.mpr ⟨none, rfl⟩).symm.trans others
      | ok step =>
          obtain ⟨definitions, last⟩ := step
          cases definitions with
          | nil =>
              obtain ⟨none, -⟩ := definitionsWithin_eq_nil_iff.mp others
              constructor
              · rintro ⟨⟩
                exact ⟨left, rfl, none⟩
              · rintro ⟨_, ⟨⟩, -⟩
                rfl
          | cons second definitions =>
              refine iff_of_false nofun ?_
              rintro ⟨_, ⟨⟩, none⟩
              cases (definitionsWithin_eq_nil_iff.mpr ⟨none, rfl⟩).symm.trans others

private theorem parseFieldSet_iff_closed {text : String} {selections : List Selection} :
    (∃ read, parseFieldSet text = .ok read ∧ selectionsWithoutOrigins read = selections) ↔
      ∃ used, Grammar.SelectionsWithin (nestingLimit - 1) used selections ∧
        (tokensFrom 1 0 (closed text.toList)).list? = some (used ++ [.punctuator .braceClose]) := by
  have braced := tokens_bracedFieldSet text
  generalize tokensFrom 1 0 (closed text.toList) = inside at braced
  let stream : TokenStream := .token (.punctuator .braceOpen) 0 inside
  constructor
  · rintro ⟨read, parsed, rfl⟩
    obtain ⟨left, done, none⟩ := (parseFieldSet_eq_ok_iff braced read).mp parsed
    obtain ⟨sound, complete, used, same, phrase⟩ :=
      (conforms_selectionSetWithin nestingLimit stream.held).of_ok rfl done
    cases left with
    | token => cases none
    | fault => cases sound
    | finish =>
        obtain ⟨phrase⟩ := phrase
        exact ⟨_, phrase, TokenStream.list?_eq_some_iff.mpr
          ⟨complete.symm, (List.cons.inj same).2.trans (List.append_nil _)⟩⟩
  · rintro ⟨used, phrase, closes⟩
    obtain ⟨complete, same⟩ := TokenStream.list?_eq_some_iff.mp closes
    have set : Grammar.SelectionSetWithin nestingLimit stream.held selections := by
      change Grammar.SelectionSetWithin _ (_ :: inside.held) _
      rw [same]
      exact .mk phrase
    have accepted := accepts_selectionSetWithin nestingLimit _ _ [] set (avoids_nil _)
    rw [List.append_nil] at accepted
    obtain ⟨read, left, done, erased, none⟩ := accepted.exists_ok complete (Nat.le_refl _)
    refine ⟨read, (parseFieldSet_eq_ok_iff braced read).mpr ⟨left, done, ?_⟩, erased⟩
    rw [TokenStream.head?_eq, none, List.head?_nil]

/--
A text is a field set if its tokens are selections. If it ends in a comment, there has to be a
closing brace behind the selections, since the one behind the text belongs to the comment.
-/
theorem parseFieldSet_iff_selections (points : List Text.CodePoint)
    (selections : List Selection) :
    let text := String.ofList (Text.hold points)
    (∃ read, parseFieldSet text = .ok read ∧ selectionsWithoutOrigins read = selections) ↔
      ∃ used, Grammar.SelectionsWithin (nestingLimit - 1) used selections ∧
        (tokens text).list? = some
          (if endsInComment 0 text.toList then used ++ [.punctuator .braceClose] else used) := by
  intro text
  have held : text.toList = Text.hold points := String.toList_ofList
  rw [parseFieldSet_iff_closed, tokens, held]
  refine exists_congr fun used => and_congr_right fun _ => ?_
  rw [list?_tokensFrom_closed (commentsGoOn_hold _) (Nat.zero_le _) 1 0]
  cases endsInComment 0 (Text.hold points) <;> simp

example : (parseFieldSet "id # the key").isOk = false := by
  decide +kernel

example : (parseFieldSet "id \x7d #").isOk = true := by
  decide +kernel

end FederationSplit.Federation
