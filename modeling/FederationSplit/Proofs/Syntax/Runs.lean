import FederationSplit.Syntax.Parser

namespace FederationSplit.Syntax

namespace TokenStream

/-- The tokens of a stream up to its end, or up to a fault. -/
def held : TokenStream → List Token
  | .token head _ rest => head :: rest.held
  | _ => []

def isFault : TokenStream → Bool
  | .fault _ => true
  | _ => false

def isComplete : TokenStream → Bool
  | .finish _ => true
  | .fault _ => false
  | .token _ _ rest => rest.isComplete

def list? (stream : TokenStream) : Option (List Token) :=
  if stream.isComplete then some stream.held else none

variable {stream rest : TokenStream}

theorem list?_eq_some_iff {tokens : List Token} :
    stream.list? = some tokens ↔ stream.isComplete = true ∧ stream.held = tokens := by
  simp [list?]

theorem head?_eq (stream : TokenStream) : stream.head? = stream.held.head? := by
  cases stream <;> rfl

theorem length_held (stream : TokenStream) : stream.held.length = stream.length := by
  induction stream with
  | finish | fault => rfl
  | token head position rest induction => simp [held, length, induction]

theorem isFault_of_isComplete (complete : stream.isComplete = true) : stream.isFault = false := by
  cases stream with
  | finish | token => rfl
  | fault => cases complete

theorem tail_ok (sound : stream.isFault = false) (dropped : stream.tail = .ok rest) :
    rest.isFault = false ∧ rest.isComplete = stream.isComplete ∧ rest.held = stream.held.tail := by
  cases stream with
  | finish =>
      cases dropped
      exact ⟨rfl, rfl, rfl⟩
  | fault => cases sound
  | token head position following =>
      cases following with
      | fault => cases dropped
      | finish | token =>
          cases dropped
          exact ⟨rfl, rfl, rfl⟩

theorem exists_tail (complete : stream.isComplete = true) : ∃ rest, stream.tail = .ok rest := by
  cases stream with
  | finish => exact ⟨_, rfl⟩
  | fault => cases complete
  | token head position following =>
      cases following with
      | fault => cases complete
      | finish | token => exact ⟨_, rfl⟩

end TokenStream

namespace Parser

/--
What came of a run. A run that has to succeed has no error. A fault behind the tokens that were used
is left there.
-/
inductive Outcome {α : Type} (succeeds : Bool) (stream : TokenStream)
    (property : α → List Token → Prop) : Except SyntaxError (α × TokenStream) → Prop
  | error (error : SyntaxError) (unsure : succeeds = false) :
      Outcome succeeds stream property (.error error)
  | ok {result : α} {rest : TokenStream} (sound : rest.isFault = false)
      (complete : rest.isComplete = stream.isComplete)
      (fewer : rest.held.length ≤ stream.held.length) (holds : property result rest.held) :
      Outcome succeeds stream property (.ok (result, rest))

/--
From some tokens on, whatever a parser reads and whatever tokens it leaves have a property. If the
run has to succeed, there is no fault behind the tokens and the bound on repetitions is high enough.
-/
def Runs {α : Type} (succeeds : Bool) (parser : Parser α) (tokens : List Token)
    (property : α → List Token → Prop) : Prop :=
  ∀ count stream, stream.isFault = false → stream.held = tokens →
    (succeeds = true → stream.isComplete = true ∧ tokens.length ≤ count) →
      Outcome succeeds stream property (parser count stream)

variable {succeeds : Bool} {α β γ : Type} {tokens : List Token}
  {property : β → List Token → Prop}

theorem Runs.of_ok {parser : Parser β} {count : Nat} {stream rest : TokenStream} {result : β}
    (runs : Runs false parser stream.held property) (sound : stream.isFault = false)
    (done : parser count stream = .ok (result, rest)) :
    rest.isFault = false ∧ rest.isComplete = stream.isComplete ∧ property result rest.held := by
  have outcome := runs count stream sound rfl nofun
  rw [done] at outcome
  cases outcome with
  | ok after complete _ holds => exact ⟨after, complete, holds⟩

theorem Runs.exists_ok {parser : Parser β} {count : Nat} {stream : TokenStream}
    (runs : Runs true parser stream.held property) (complete : stream.isComplete = true)
    (enough : stream.length ≤ count) :
    ∃ result rest, parser count stream = .ok (result, rest) ∧ property result rest.held := by
  have outcome := runs count stream (TokenStream.isFault_of_isComplete complete) rfl fun _ =>
    ⟨complete, stream.length_held ▸ enough⟩
  cases done : parser count stream with
  | error =>
      rw [done] at outcome
      cases outcome with
      | error _ unsure => cases unsure
  | ok =>
      rw [done] at outcome
      cases outcome with
      | ok _ _ _ holds => exact ⟨_, _, rfl, holds⟩

theorem Runs.pure {result : β} (holds : property result tokens) :
    Runs succeeds (Pure.pure result) tokens property := by
  rintro count stream sound rfl _
  exact .ok sound rfl (Nat.le_refl _) holds

theorem Runs.bind {first : Parser α} {second : α → Parser β}
    (runs : Runs succeeds first tokens fun result left =>
      Runs succeeds (second result) left property) :
    Runs succeeds (first >>= second) tokens property := by
  rintro count stream sound rfl enough
  change Outcome _ _ _ (first count stream >>= fun step => second step.1 count step.2)
  have outcome := runs count stream sound rfl enough
  generalize first count stream = ran at outcome
  cases outcome with
  | error error unsure => exact .error error unsure
  | ok between completeBetween fewer continues =>
      have later := continues count _ between rfl fun sure =>
        ⟨completeBetween.trans (enough sure).1, Nat.le_trans fewer (enough sure).2⟩
      change Outcome _ _ _ (second _ count _)
      generalize second _ count _ = ranLater at later
      cases later with
      | error error unsure => exact .error error unsure
      | ok after completeAfter fewerAfter holds =>
          exact .ok after (completeAfter.trans completeBetween)
            (Nat.le_trans fewerAfter fewer) holds

theorem Runs.mono {parser : Parser β} {stronger : β → List Token → Prop}
    (runs : Runs succeeds parser tokens stronger)
    (weaker : ∀ result left, stronger result left → property result left) :
    Runs succeeds parser tokens property := by
  intro count stream sound same enough
  have outcome := runs count stream sound same enough
  generalize parser count stream = ran at outcome
  cases outcome with
  | error error unsure => exact .error error unsure
  | ok after complete fewer holds => exact .ok after complete fewer (weaker _ _ holds)

theorem Runs.ite {condition : Prop} [Decidable condition] {first second : Parser β}
    (whenTrue : condition → Runs succeeds first tokens property)
    (whenFalse : ¬condition → Runs succeeds second tokens property) :
    Runs succeeds (if condition then first else second) tokens property := by
  split
  · exact whenTrue ‹_›
  · exact whenFalse ‹_›

theorem runs_throw (unsure : succeeds = false) (error : SyntaxError) :
    Runs succeeds (MonadExcept.throw error : Parser β) tokens property :=
  fun _ _ _ _ _ => .error error unsure

private theorem runs_get {property : TokenStream → List Token → Prop}
    (holds : ∀ stream, stream.held = tokens → property stream tokens) :
    Runs succeeds get tokens property := by
  rintro count stream sound rfl _
  exact .ok sound rfl (Nat.le_refl _) (holds stream rfl)

theorem runs_peek {property : Option Token → List Token → Prop}
    (holds : property tokens.head? tokens) : Runs succeeds peek tokens property :=
  .bind (runs_get fun stream same => .pure (by rwa [stream.head?_eq, same]))

theorem runs_position {property : Nat → List Token → Prop}
    (holds : ∀ place, property place tokens) : Runs succeeds position tokens property :=
  .bind (runs_get fun _ _ => .pure (holds _))

theorem runs_tokenCount {property : Nat → List Token → Prop}
    (holds : ∀ count, (succeeds = true → tokens.length ≤ count) → property count tokens) :
    Runs succeeds tokenCount tokens property := by
  rintro count stream sound rfl enough
  exact .ok sound rfl (Nat.le_refl _) (holds count fun sure => (enough sure).2)

theorem runs_advance {property : Unit → List Token → Prop} (holds : property () tokens.tail) :
    Runs succeeds advance tokens property := by
  rintro count stream sound rfl enough
  change Outcome _ _ _ (StateT.lift stream.tail stream >>= fun step => Except.ok ((), step.1))
  cases step : stream.tail with
  | error error =>
      refine .error error (Bool.eq_false_iff.mpr fun sure => ?_)
      obtain ⟨rest, dropped⟩ := TokenStream.exists_tail (enough sure).1
      cases step.symm.trans dropped
  | ok next =>
      obtain ⟨after, complete, left⟩ := TokenStream.tail_ok sound step
      exact .ok after complete (by simp [left]) (left ▸ holds)

theorem runs_fail (unsure : succeeds = false) (fault : Fault) :
    Runs succeeds (fail fault : Parser β) tokens property :=
  .bind (runs_position fun _ => runs_throw unsure _)

theorem runs_unexpected (unsure : succeeds = false) :
    Runs succeeds (unexpected : Parser β) tokens property :=
  .bind (runs_peek (runs_fail unsure _))

theorem runs_skipIf {condition : Token → Bool} {property : Bool → List Token → Prop}
    (taken : ∀ token rest, tokens = token :: rest → condition token = true → property true rest)
    (left : (∀ token, tokens.head? = some token → condition token = false) →
      property false tokens) : Runs succeeds (skipIf condition) tokens property := by
  refine .bind (runs_peek ?_)
  cases tokens with
  | nil => exact .pure (left nofun)
  | cons token rest =>
      refine .ite (fun holds => ?_) fun fails => ?_
      · exact .bind (runs_advance (.pure (taken token rest rfl holds)))
      · refine .pure (left ?_)
        rintro _ ⟨⟩
        exact Bool.not_eq_true _ ▸ fails

theorem runs_skip {mark : Punctuator} {property : Bool → List Token → Prop}
    (taken : ∀ rest, tokens = .punctuator mark :: rest → property true rest)
    (left : tokens.head? ≠ some (.punctuator mark) → property false tokens) :
    Runs succeeds (skip mark) tokens property := by
  refine runs_skipIf (fun token rest same isMark => ?_) fun other => left fun isMark => ?_
  · exact taken rest (beq_iff_eq.mp isMark ▸ same)
  · simpa using other _ isMark

theorem runs_skipKeyword {word : String} {property : Bool → List Token → Prop}
    (taken : ∀ rest, tokens = .name word :: rest → property true rest)
    (left : tokens.head? ≠ some (.name word) → property false tokens) :
    Runs succeeds (skipKeyword word) tokens property := by
  refine runs_skipIf (fun token rest same isWord => ?_) fun other => left fun isWord => ?_
  · exact taken rest (beq_iff_eq.mp isWord ▸ same)
  · simpa using other _ isWord

theorem runs_isNext {mark : Punctuator} {property : Bool → List Token → Prop}
    (holds : property (tokens.head? == some (.punctuator mark)) tokens) :
    Runs succeeds (isNext mark) tokens property :=
  .bind (runs_peek (.pure holds))

theorem runs_expect {mark : Punctuator} {property : Unit → List Token → Prop}
    (found : succeeds = true → tokens.head? = some (.punctuator mark))
    (taken : ∀ rest, tokens = .punctuator mark :: rest → property () rest) :
    Runs succeeds (expect mark) tokens property :=
  .bind (runs_skip (fun rest same => .pure (taken rest same)) fun other =>
    .bind (runs_peek (runs_fail (Bool.eq_false_iff.mpr fun sure => other (found sure)) _)))

theorem runs_name {property : Name → List Token → Prop}
    (found : succeeds = true → ∃ text, tokens.head? = some (.name text))
    (taken : ∀ text rest, tokens = .name text :: rest → property text rest) :
    Runs succeeds name tokens property := by
  refine .bind (runs_peek ?_)
  split
  · next text isName =>
      obtain ⟨rest, rfl⟩ := List.head?_eq_some_iff.mp isName
      exact .bind (runs_advance (.pure (taken text rest rfl)))
  · next other =>
      refine runs_fail (Bool.eq_false_iff.mpr fun sure => ?_) _
      obtain ⟨text, isName⟩ := found sure
      exact other text isName

end Parser

end FederationSplit.Syntax
