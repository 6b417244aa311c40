import FederationSplit.Proofs.Syntax.Conforming

namespace FederationSplit.Syntax

/-- The next token is none of some punctuators. -/
def Avoids (marks : List Punctuator) (tokens : List Token) : Prop :=
  ∀ mark ∈ marks, tokens.head? ≠ some (.punctuator mark)

theorem avoids_nil (marks : List Punctuator) : Avoids marks [] :=
  nofun

theorem avoids_none (tokens : List Token) : Avoids [] tokens :=
  nofun

theorem avoids_name (marks : List Punctuator) (text : Name) (tokens : List Token) :
    Avoids marks (.name text :: tokens) :=
  nofun

theorem avoids_mark {marks : List Punctuator} {mark : Punctuator} (other : mark ∉ marks)
    (tokens : List Token) : Avoids marks (.punctuator mark :: tokens) := by
  rintro _ member ⟨⟩
  exact other member

theorem Avoids.append {marks : List Punctuator} {used rest : List Token} (front : Avoids marks used)
    (behind : Avoids marks rest) : Avoids marks (used ++ rest) := by
  cases used with
  | nil => exact behind
  | cons => exact front

theorem Avoids.mono {marks fewer : List Punctuator} {tokens : List Token}
    (avoids : Avoids marks tokens) (among : fewer ⊆ marks) : Avoids fewer tokens :=
  fun mark member => avoids mark (among member)

namespace Grammar

/-- No phrase is empty or starts with one of some punctuators. -/
def Begins {α : Type} (grammar : Grammar α) (marks : List Punctuator) : Prop :=
  ∀ used result, grammar used result → used ≠ [] ∧ Avoids marks used

variable {α : Type} {grammar : Grammar α} {marks fewer : List Punctuator} {used : List Token}

theorem Begins.mono (begins : Begins grammar marks) (among : fewer ⊆ marks) :
    Begins grammar fewer :=
  fun used result phrase => (begins used result phrase).imp_right (·.mono among)

theorem Begins.avoids {result : α} (begins : Begins grammar marks) (phrase : grammar used result)
    (rest : List Token) : Avoids marks (used ++ rest) := by
  obtain ⟨some, avoids⟩ := begins used result phrase
  cases used with
  | nil => exact absurd rfl some
  | cons => exact avoids

def Opens {α : Type} (grammar : Grammar α) (mark : Punctuator) : Prop :=
  ∀ used result, grammar used result → used.head? = some (.punctuator mark)

theorem Opens.head? {mark : Punctuator} {result : α} (opens : Opens grammar mark)
    (phrase : grammar used result) (rest : List Token) :
    (used ++ rest).head? = some (.punctuator mark) := by
  rw [List.head?_append, opens used result phrase, Option.some_or]

theorem Opens.begins {mark : Punctuator} (opens : Opens grammar mark) (other : mark ∉ marks) :
    Begins grammar marks := by
  intro used result phrase
  obtain ⟨more, rfl⟩ := List.head?_eq_some_iff.mp (opens used result phrase)
  exact ⟨nofun, avoids_mark other more⟩

theorem opens_between (opening : Punctuator) (inside : Grammar α) (closing : Punctuator) :
    Opens (Between opening inside closing) opening := by
  rintro _ _ ⟨_⟩
  rfl

theorem Sequence.avoids {items : List α} (sequence : Sequence grammar used items)
    (begins : Begins grammar marks) : Avoids marks used := by
  cases sequence with
  | nil => exact avoids_nil marks
  | cons head => exact begins.avoids head _

theorem Sequence.avoids_closing {items : List α} {closing : Punctuator}
    (sequence : Sequence grammar used items) (begins : Begins grammar (closing :: marks))
    (other : closing ∉ marks) (rest : List Token) :
    Avoids marks (used ++ .punctuator closing :: rest) :=
  (sequence.avoids (begins.mono (List.subset_cons_self _ _))).append (avoids_mark other rest)

theorem Sequence.length_le {items : List α} (sequence : Sequence grammar used items)
    (begins : Begins grammar marks) : items.length ≤ used.length := by
  induction sequence with
  | nil => exact Nat.le_refl _
  | cons head _ induction =>
      have := List.length_pos_iff.mpr (begins _ _ head).1
      simp only [List.length_cons, List.length_append]
      omega

theorem Optional.avoids {phrase : Grammar (List α)} {items : List α}
    (optional : Optional phrase used items) (begins : Begins phrase marks) : Avoids marks used := by
  cases optional with
  | absent => exact avoids_nil marks
  | present phrase => exact (begins _ _ phrase).2

end Grammar

namespace Parser

open Grammar

/-- A parser reads each phrase that none of some punctuators follows, and nothing behind it. -/
def Accepts {α γ : Type} (erase : α → γ) (grammar : Grammar γ) (marks : List Punctuator)
    (parser : Parser α) : Prop :=
  ∀ used result rest, grammar used result → Avoids marks rest →
    Runs true parser (used ++ rest) fun read left => erase read = result ∧ left = rest

section

variable {α β γ : Type} {erase : α → γ} {grammar : Grammar γ} {marks : List Punctuator}
  {parser : Parser α}

theorem Accepts.bind {second : α → Parser β} {used rest : List Token} {result : γ}
    {property : β → List Token → Prop} (accepts : Accepts erase grammar marks parser)
    (phrase : grammar used result) (avoids : Avoids marks rest)
    (continues : ∀ read, erase read = result → Runs true (second read) rest property) :
    Runs true (parser >>= second) (used ++ rest) property := by
  refine .bind ((accepts used result rest phrase avoids).mono ?_)
  rintro read _ ⟨same, rfl⟩
  exact continues read same

theorem runs_skip_mark {mark : Punctuator} {rest : List Token}
    {property : Bool → List Token → Prop} (holds : property true rest) :
    Runs true (skip mark) (.punctuator mark :: rest) property :=
  runs_skip (fun _ same => (List.cons.inj same).2 ▸ holds) fun other => absurd rfl other

theorem runs_skip_other {mark : Punctuator} {tokens : List Token}
    {property : Bool → List Token → Prop} (other : Avoids [mark] tokens)
    (holds : property false tokens) : Runs true (skip mark) tokens property :=
  runs_skip (fun _ same => absurd (same ▸ rfl) (other mark (List.mem_singleton_self _)))
    fun _ => holds

theorem runs_skipKeyword_word {word : String} {rest : List Token}
    {property : Bool → List Token → Prop} (holds : property true rest) :
    Runs true (skipKeyword word) (.name word :: rest) property :=
  runs_skipKeyword (fun _ same => (List.cons.inj same).2 ▸ holds) fun other => absurd rfl other

theorem runs_skipKeyword_other {word : String} {tokens : List Token}
    {property : Bool → List Token → Prop} (other : tokens.head? ≠ some (.name word))
    (holds : property false tokens) : Runs true (skipKeyword word) tokens property :=
  runs_skipKeyword (fun _ same => absurd (same ▸ rfl) other) fun _ => holds

theorem runs_expect_mark {mark : Punctuator} {rest : List Token}
    {property : Unit → List Token → Prop} (holds : property () rest) :
    Runs true (expect mark) (.punctuator mark :: rest) property :=
  runs_expect (fun _ => rfl) fun _ same => (List.cons.inj same).2 ▸ holds

theorem runs_name_text {text : Name} {rest : List Token} {property : Name → List Token → Prop}
    (holds : property text rest) : Runs true name (.name text :: rest) property := by
  refine runs_name (fun _ => ⟨text, rfl⟩) ?_
  rintro _ _ ⟨⟩
  exact holds

theorem runs_isNext_mark {mark : Punctuator} {tokens : List Token}
    {property : Bool → List Token → Prop} (next : tokens.head? = some (.punctuator mark))
    (holds : property true tokens) : Runs true (isNext mark) tokens property :=
  runs_isNext (by rwa [beq_iff_eq.mpr next])

theorem runs_isNext_other {mark : Punctuator} {tokens : List Token}
    {property : Bool → List Token → Prop} (other : Avoids [mark] tokens)
    (holds : property false tokens) : Runs true (isNext mark) tokens property :=
  runs_isNext (by rwa [beq_eq_false_iff_ne.mpr (other mark (List.mem_singleton_self _))])

variable {opening closing : Punctuator}

theorem accepts_itemsUntil (accepts : Accepts erase grammar marks parser)
    (begins : Begins grammar (closing :: marks)) (other : closing ∉ marks) {used : List Token}
    {items : List γ} (sequence : Sequence grammar used items) (rest : List Token) {bound : Nat}
    (enough : items.length < bound) :
    Runs true (itemsUntil closing parser bound) (used ++ .punctuator closing :: rest)
      fun read left => read.map erase = items ∧ left = rest := by
  induction sequence generalizing bound with
  | nil =>
      cases bound with
      | zero => cases enough
      | succ bound => exact .bind (runs_skip_mark (.pure ⟨rfl, rfl⟩))
  | @cons used more first others head tail induction =>
      cases bound with
      | zero => cases enough
      | succ bound =>
          rw [List.append_assoc]
          refine .bind (runs_skip_other ((begins.avoids head _).mono (by simp)) ?_)
          refine accepts.bind head (tail.avoids_closing begins other rest) fun read same =>
            .bind ((induction (Nat.lt_of_succ_lt_succ enough)).mono ?_)
          rintro readOthers _ ⟨sameOthers, rfl⟩
          exact .pure ⟨by simp [same, sameOthers], rfl⟩

theorem accepts_enclosed (accepts : Accepts erase grammar marks parser)
    (begins : Begins grammar (closing :: marks)) (other : closing ∉ marks) :
    Accepts (List.map erase) (Between opening (Sequence grammar) closing) []
      (enclosed opening parser closing) := by
  rintro _ items rest ⟨sequence⟩ _
  rw [List.cons_append, List.append_assoc]
  refine .bind (runs_expect_mark (.bind (runs_tokenCount fun count enough => ?_)))
  refine accepts_itemsUntil accepts begins other sequence rest ?_
  have := sequence.length_le begins
  have := enough rfl
  rw [List.length_append] at this
  omega

theorem accepts_enclosedSome (accepts : Accepts erase grammar marks parser)
    (begins : Begins grammar (closing :: marks)) (other : closing ∉ marks) :
    Accepts (List.map erase) (Between opening (Items grammar) closing) []
      (enclosedSome opening parser closing) := by
  rintro _ items rest ⟨sequence, some⟩ _
  cases sequence with
  | nil => exact absurd rfl some
  | @cons used more first others head tail =>
      simp only [List.cons_append, List.append_assoc, List.nil_append]
      have avoids := tail.avoids_closing begins other rest
      refine .bind (runs_expect_mark (accepts.bind head avoids fun read same => ?_))
      refine .bind (runs_tokenCount fun count enough => ?_)
      have few : others.length < count + 1 := by
        have := tail.length_le begins
        have := enough rfl
        rw [List.length_append] at this
        omega
      refine .bind ((accepts_itemsUntil accepts begins other tail rest few).mono ?_)
      rintro readOthers _ ⟨sameOthers, rfl⟩
      exact .pure ⟨by simp [same, sameOthers], rfl⟩

theorem accepts_enclosedOption (accepts : Accepts erase grammar marks parser)
    (begins : Begins grammar (closing :: marks)) (other : closing ∉ marks) :
    Accepts (List.map erase) (Optional (Between opening (Items grammar) closing)) [opening]
      (enclosedOption opening parser closing) := by
  rintro used items rest optional avoids
  cases optional with
  | absent => exact .bind (runs_isNext_other avoids (.pure ⟨rfl, rfl⟩))
  | present phrase =>
      have accepted := accepts_enclosedSome accepts begins other used items rest phrase
        (avoids_none rest)
      exact .bind (runs_isNext_mark ((opens_between _ _ _).head? phrase rest) accepted)

end

private theorem begins_collection {item : Grammar Value} {mark : Punctuator}
    (noList : mark ≠ .bracketOpen) (noObject : mark ≠ .braceOpen) :
    Begins (Collection item) [mark] := by
  rintro used _ (list | object)
  · exact (opens_between _ _ _).begins (by simpa using noList.symm) _ _ list
  · exact (opens_between _ _ _).begins (by simpa using noObject.symm) _ _ object

private theorem begins_valueWithin (depth : Nat) :
    Begins (ValueWithin depth) [.bracketClose] := by
  have begins {nested : Grammar Value} (begins : Begins nested [.bracketClose]) :
      Begins (ValueOf nested) [.bracketClose] := by
    rintro used _ (_ | _ | _ | _ | _ | _ | _ | _ | nested)
    case nested => exact begins _ _ nested
    all_goals exact ⟨nofun, by simp [Avoids]⟩
  cases depth with
  | zero => exact begins nofun
  | succ depth => exact begins (begins_collection nofun nofun)

private theorem accepts_collection {item : Parser Value} {grammar : Grammar Value}
    (accepts : Accepts id grammar [] item) (begins : Begins grammar [.bracketClose]) :
    Accepts id (Collection grammar) [] (collection item) := by
  rintro used _ rest (phrase | phrase) avoids
  · refine .bind (runs_isNext_mark ((opens_between _ _ _).head? phrase rest) ?_)
    refine (accepts_enclosed accepts begins nofun).bind phrase avoids fun read same => ?_
    exact .pure ⟨by simp [← same], rfl⟩
  · have field : Accepts id (ObjectField grammar) [] (do
        let fieldName ← name
        expect .colon
        pure (fieldName, ← item)) := by
      rintro _ _ rest ⟨phrase⟩ avoids
      refine .bind (runs_name_text (.bind (runs_expect_mark ?_)))
      exact accepts.bind phrase avoids fun read same => .pure ⟨by simp [← same], rfl⟩
    have beginsField : Begins (ObjectField grammar) [.braceClose] := by
      rintro _ _ ⟨_⟩
      exact ⟨nofun, avoids_name _ _ _⟩
    have noList : Avoids [.bracketOpen] (used ++ rest) :=
      ((opens_between _ _ _).begins (by decide)).avoids phrase rest
    refine .bind (runs_isNext_other noList ?_)
    refine (accepts_enclosed field beginsField nofun).bind phrase avoids fun read same => ?_
    exact .pure ⟨by simp [← same], rfl⟩

private theorem accepts_valueOf {nested : Parser Value} {grammar : Grammar Value}
    (accepts : Accepts id grammar [] nested)
    (opens : ∀ used value, grammar used value →
      used.head? = some (.punctuator .bracketOpen) ∨ used.head? = some (.punctuator .braceOpen)) :
    Accepts id (ValueOf grammar) [] (valueOf false nested) := by
  rintro used value rest phrase avoids
  refine .bind (runs_peek ?_)
  cases phrase with
  | «variable» text =>
      exact .bind (runs_position fun _ => .bind (runs_expect_mark
        (.bind (runs_name_text (.pure ⟨rfl, rfl⟩)))))
  | @enum text notTrue notFalse notNull =>
      split
      case h_7 found _ _ _ same =>
        cases same
        exact .bind (runs_advance (.pure ⟨rfl, rfl⟩))
      all_goals simp_all
  | nested phrase =>
      have accepted := accepts used value rest phrase avoids
      obtain isList | isObject := opens used value phrase
      · obtain ⟨more, rfl⟩ := List.head?_eq_some_iff.mp isList
        exact accepted
      · obtain ⟨more, rfl⟩ := List.head?_eq_some_iff.mp isObject
        exact accepted
  | _ => exact .bind (runs_advance (.pure ⟨rfl, rfl⟩))

private theorem accepts_valueWithin (depth : Nat) :
    Accepts id (ValueWithin depth) [] (valueWithin false depth) := by
  induction depth with
  | zero => exact accepts_valueOf nofun nofun
  | succ depth induction =>
      refine accepts_valueOf (accepts_collection induction (begins_valueWithin depth)) ?_
      rintro _ _ (⟨⟨_⟩⟩ | ⟨⟨_⟩⟩)
      · exact .inl rfl
      · exact .inr rfl

private theorem opens_usageWithin (depth : Nat) : Opens (UsageWithin depth) .at := by
  rintro _ _ ⟨_⟩
  rfl

private theorem accepts_arguments (depth : Nat) :
    Accepts (List.map Argument.withoutOrigin) (ArgumentsWithin depth) [.parenOpen]
      (arguments false depth) := by
  have argument :
      Accepts Argument.withoutOrigin (ArgumentWithin depth) [] (argument false depth) := by
    rintro _ _ rest ⟨phrase⟩ avoids
    refine .bind (runs_name_text (.bind (runs_expect_mark (.bind (runs_position fun _ => ?_)))))
    refine (accepts_valueWithin depth).bind phrase avoids fun read same => ?_
    exact .pure ⟨by simp [Argument.withoutOrigin, ← same], rfl⟩
  have begins : Begins (ArgumentWithin depth) [.parenClose] := by
    rintro _ _ ⟨_⟩
    exact ⟨nofun, avoids_name _ _ _⟩
  exact accepts_enclosedOption argument begins nofun

private theorem accepts_directiveUsages (depth : Nat) :
    Accepts eraseOrigins (Sequence (UsageWithin depth)) [.at, .parenOpen]
      (directiveUsages false depth) := by
  have usage : Accepts DirectiveUsage.withoutOrigin (UsageWithin depth) [.parenOpen]
      (directiveUsage false depth) := by
    rintro _ _ rest ⟨given⟩ avoids
    refine .bind (runs_position fun _ => .bind (runs_expect_mark (.bind (runs_name_text ?_))))
    refine (accepts_arguments depth).bind given avoids fun read same => ?_
    exact .pure ⟨by simp [DirectiveUsage.withoutOrigin, ← same], rfl⟩
  have within {used : List Token} {usages : List DirectiveUsage}
      (sequence : Sequence (UsageWithin depth) used usages) {rest : List Token}
      (avoids : Avoids [.at, .parenOpen] rest) {bound : Nat} (enough : usages.length ≤ bound) :
      Runs true (directiveUsagesWithin false depth bound) (used ++ rest)
        fun read left => eraseOrigins read = usages ∧ left = rest := by
    induction sequence generalizing bound with
    | nil =>
        cases bound with
        | zero => exact .pure ⟨rfl, rfl⟩
        | succ bound => exact .bind (runs_isNext_other (avoids.mono (by simp)) (.pure ⟨rfl, rfl⟩))
    | @cons used more first others head tail induction =>
        cases bound with
        | zero => cases enough
        | succ bound =>
            have avoidsHead : Avoids [.parenOpen] (more ++ rest) :=
              (tail.avoids ((opens_usageWithin depth).begins (by decide))).append
                (avoids.mono (by simp))
            rw [List.append_assoc]
            refine .bind (runs_isNext_mark ((opens_usageWithin depth).head? head _) ?_)
            refine usage.bind head avoidsHead fun read same => ?_
            refine .bind ((induction (Nat.le_of_succ_le_succ enough)).mono ?_)
            rintro readOthers _ ⟨sameOthers, rfl⟩
            exact .pure ⟨by simp [← same, ← sameOthers, eraseOrigins], rfl⟩
  intro used usages rest sequence avoids
  refine .bind (runs_tokenCount fun count enough => within sequence avoids ?_)
  have := sequence.length_le ((opens_usageWithin depth).begins List.not_mem_nil)
  have := enough rfl
  rw [List.length_append] at this
  omega

/-! ### Selections -/

/-- What cannot stand behind a selection, because it would continue it. -/
def continuing : List Punctuator := [.colon, .parenOpen, .at, .braceOpen]

section

variable {depth : Nat} {selections : Parser (List Selection)} {set : Grammar (List Selection)}

private theorem accepts_fieldEnding (accepts : Accepts selectionsWithoutOrigins set [] selections)
    (opens : Opens set .braceOpen) {responseName : Option Name} {fieldName : Name}
    {given applied below rest : List Token} {arguments : List Argument}
    {directives : List DirectiveUsage} {result : List Selection}
    (isGiven : ArgumentsWithin depth given arguments)
    (areApplied : Sequence (UsageWithin depth) applied directives)
    (isBelow : Optional set below result) (avoids : Avoids continuing rest) :
    Runs true (fieldEnding depth selections (.field responseName fieldName))
      (given ++ (applied ++ (below ++ rest))) fun read left =>
        read.withoutOrigins = .field responseName fieldName arguments directives result ∧
          left = rest := by
  have behindApplied : Avoids [.at, .parenOpen] (below ++ rest) :=
    (isBelow.avoids (opens.begins (by decide))).append (avoids.mono (by simp [continuing]))
  have behindGiven : Avoids [.parenOpen] (applied ++ (below ++ rest)) :=
    (areApplied.avoids ((opens_usageWithin depth).begins (by decide))).append
      (behindApplied.mono (by simp))
  refine (accepts_arguments depth).bind isGiven behindGiven fun _ sameGiven => ?_
  refine (accepts_directiveUsages depth).bind areApplied behindApplied fun _ sameApplied => ?_
  cases isBelow with
  | absent =>
      refine .bind (runs_isNext_other (avoids.mono (by simp [continuing])) (.pure ⟨?_, rfl⟩))
      rw [Selection.withoutOrigins, sameGiven, sameApplied]
      rfl
  | present phrase =>
      refine .bind (runs_isNext_mark (opens.head? phrase rest) ?_)
      refine accepts.bind phrase (avoids_none rest) fun _ sameBelow => .pure ⟨?_, rfl⟩
      rw [Selection.withoutOrigins, sameGiven, sameApplied, sameBelow]

private theorem accepts_fragmentEnding
    (accepts : Accepts selectionsWithoutOrigins set [] selections)
    (opens : Opens set .braceOpen) {condition : Option Name} {applied below rest : List Token}
    {directives : List DirectiveUsage} {result : List Selection}
    (areApplied : Sequence (UsageWithin depth) applied directives) (isBelow : set below result) :
    Runs true (do
        let directives ← directiveUsages false depth
        pure (Selection.inlineFragment condition directives (← selections)))
      (applied ++ (below ++ rest)) fun read left =>
        read.withoutOrigins = .inlineFragment condition directives result ∧ left = rest := by
  have behindApplied : Avoids [.at, .parenOpen] (below ++ rest) :=
    (opens.begins (by decide)).avoids isBelow rest
  refine (accepts_directiveUsages depth).bind areApplied behindApplied fun _ sameApplied => ?_
  refine accepts.bind isBelow (avoids_none rest) fun _ sameBelow => .pure ⟨?_, rfl⟩
  rw [Selection.withoutOrigins, sameApplied, sameBelow]

private theorem accepts_selection (accepts : Accepts selectionsWithoutOrigins set [] selections)
    (opens : Opens set .braceOpen) :
    Accepts Selection.withoutOrigins (SelectionOf depth set) continuing
      (selection depth selections) := by
  intro used result rest phrase avoids
  cases phrase with
  | @field name given applied below _ _ _ isGiven areApplied isBelow =>
      have noColon : Avoids [.colon] (given ++ (applied ++ (below ++ rest))) :=
        (isGiven.avoids ((opens_between _ _ _).begins (by decide))).append
          ((areApplied.avoids ((opens_usageWithin depth).begins (by decide))).append
            ((isBelow.avoids (opens.begins (by decide))).append
              (avoids.mono (by simp [continuing]))))
      simp only [List.cons_append, List.append_assoc]
      refine .bind (runs_skip_other (avoids_name _ _ _) ?_)
      rw [fieldSelection_eq]
      refine .bind (runs_name_text (.bind (runs_skip_other noColon ?_)))
      exact accepts_fieldEnding accepts opens isGiven areApplied isBelow avoids
  | renamedField isGiven areApplied isBelow =>
      simp only [List.cons_append, List.append_assoc]
      refine .bind (runs_skip_other (avoids_name _ _ _) ?_)
      rw [fieldSelection_eq]
      refine .bind (runs_name_text (.bind (runs_skip_mark (.bind (runs_name_text ?_)))))
      exact accepts_fieldEnding accepts opens isGiven areApplied isBelow avoids
  | fragmentSpread other areApplied =>
      refine .bind (runs_skip_mark (.bind (runs_skipKeyword_other (by simpa using other) ?_)))
      refine .bind (runs_peek (.bind (.bind (runs_peek (.ite ?_ fun _ => runs_name_text ?_)))))
      · exact fun isOn => absurd (by simpa [Token.text?] using isOn) other
      · refine (accepts_directiveUsages depth).bind areApplied
          (avoids.mono (by simp [continuing])) fun read same => ?_
        exact .pure ⟨by rw [Selection.withoutOrigins, same], rfl⟩
  | conditionalFragment areApplied isBelow =>
      simp only [List.cons_append, List.append_assoc]
      refine .bind (runs_skip_mark (.bind (runs_skipKeyword_word (.bind (runs_name_text ?_)))))
      exact accepts_fragmentEnding accepts opens areApplied isBelow
  | @fragment applied below _ _ areApplied isBelow =>
      obtain ⟨mark, next⟩ :
          ∃ mark, (applied ++ (below ++ rest)).head? = some (.punctuator mark) := by
        cases areApplied with
        | nil => exact ⟨_, opens.head? isBelow rest⟩
        | cons head =>
            rw [List.append_assoc]
            exact ⟨_, (opens_usageWithin depth).head? head _⟩
      rw [List.cons_append, List.append_assoc]
      refine .bind (runs_skip_mark (.bind (runs_skipKeyword_other ?_ (.bind (runs_peek ?_)))))
      · rw [next]
        nofun
      · rw [next]
        exact accepts_fragmentEnding accepts opens areApplied isBelow

end

private theorem begins_selectionOf (depth : Nat) (set : Grammar (List Selection)) :
    Begins (SelectionOf depth set) (.braceClose :: continuing) := by
  intro used result phrase
  cases phrase with
  | field | renamedField => exact ⟨nofun, avoids_name _ _ _⟩
  | _ => exact ⟨nofun, avoids_mark (by decide) _⟩

private theorem opens_selectionSetWithin (depth : Nat) :
    Opens (SelectionSetWithin depth) .braceOpen := by
  cases depth with
  | zero => nofun
  | succ depth => exact opens_between _ _ _

theorem accepts_selectionSetWithin (depth : Nat) :
    Accepts selectionsWithoutOrigins (SelectionSetWithin depth) [] (selectionSetWithin depth) := by
  induction depth with
  | zero => nofun
  | succ depth induction =>
      rw [funext selectionsWithoutOrigins_eq_map]
      exact accepts_enclosedSome (accepts_selection induction (opens_selectionSetWithin depth))
        (begins_selectionOf depth _) (by decide)

end Parser

end FederationSplit.Syntax
