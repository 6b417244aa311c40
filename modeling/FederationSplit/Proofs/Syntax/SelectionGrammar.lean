import FederationSplit.Syntax.Parser

namespace FederationSplit.Syntax

/-- What tokens stand for. -/
abbrev Grammar (α : Type) := List Token → α → Prop

namespace Grammar

variable {α : Type}

inductive Sequence (item : Grammar α) : Grammar (List α)
  | nil : Sequence item [] []
  | cons {used more : List Token} {first : α} {others : List α} (head : item used first)
      (tail : Sequence item more others) : Sequence item (used ++ more) (first :: others)

def Items (item : Grammar α) : Grammar (List α) :=
  fun used items => Sequence item used items ∧ items ≠ []

inductive Between (opening : Punctuator) (inside : Grammar α) (closing : Punctuator) : Grammar α
  | mk {used : List Token} {result : α} (stands : inside used result) :
      Between opening inside closing
        (.punctuator opening :: (used ++ [.punctuator closing])) result

inductive Optional (phrase : Grammar (List α)) : Grammar (List α)
  | absent : Optional phrase [] []
  | present {used : List Token} {items : List α} (stands : phrase used items) :
      Optional phrase used items

/-- A value, whose lists and objects are left to another grammar. -/
inductive ValueOf (nested : Grammar Value) : Grammar Value
  | variable (name : Name) : ValueOf nested [.punctuator .dollar, .name name] (.variable name)
  | int (digits : String) : ValueOf nested [.int digits] (.int digits)
  | float (digits : String) : ValueOf nested [.float digits] (.float digits)
  | string (literal : StringLiteral) : ValueOf nested [.string literal] (.string literal)
  | isTrue : ValueOf nested [.name "true"] (.boolean true)
  | isFalse : ValueOf nested [.name "false"] (.boolean false)
  | null : ValueOf nested [.name "null"] .null
  | enum {name : Name} (notTrue : name ≠ "true") (notFalse : name ≠ "false")
      (notNull : name ≠ "null") : ValueOf nested [.name name] (.enum name)
  | nested {used : List Token} {value : Value} (stands : nested used value) :
      ValueOf nested used value

inductive ObjectField (item : Grammar Value) : Grammar (Name × Value)
  | mk {name : Name} {used : List Token} {value : Value} (stands : item used value) :
      ObjectField item (.name name :: .punctuator .colon :: used) (name, value)

inductive Collection (item : Grammar Value) : Grammar Value
  | list {used : List Token} {items : List Value}
      (stands : Between .bracketOpen (Sequence item) .bracketClose used items) :
      Collection item used (.list items)
  | object {used : List Token} {fields : List (Name × Value)}
      (stands : Between .braceOpen (Sequence (ObjectField item)) .braceClose used fields) :
      Collection item used (.object fields)

def ValueWithin : Nat → Grammar Value
  | 0 => ValueOf fun _ _ => False
  | depth + 1 => ValueOf (Collection (ValueWithin depth))

inductive ArgumentWithin (depth : Nat) : Grammar Argument
  | mk {name : Name} {used : List Token} {value : Value} (stands : ValueWithin depth used value) :
      ArgumentWithin depth (.name name :: .punctuator .colon :: used)
        { name, value, origin := none }

def ArgumentsWithin (depth : Nat) : Grammar (List Argument) :=
  Optional (Between .parenOpen (Items (ArgumentWithin depth)) .parenClose)

inductive UsageWithin (depth : Nat) : Grammar DirectiveUsage
  | mk {name : Name} {used : List Token} {arguments : List Argument}
      (given : ArgumentsWithin depth used arguments) :
      UsageWithin depth (.punctuator .at :: .name name :: used) { name, arguments, origin := none }

/-- A selection, whose selection sets are left to another grammar. -/
inductive SelectionOf (depth : Nat) (set : Grammar (List Selection)) : Grammar Selection
  | field {name : Name} {given applied below : List Token} {arguments : List Argument}
      {directives : List DirectiveUsage} {selections : List Selection}
      (isGiven : ArgumentsWithin depth given arguments)
      (areApplied : Sequence (UsageWithin depth) applied directives)
      (isBelow : Optional set below selections) :
      SelectionOf depth set (.name name :: (given ++ (applied ++ below)))
        (.field none name arguments directives selections)
  | renamedField {responseName name : Name} {given applied below : List Token}
      {arguments : List Argument} {directives : List DirectiveUsage} {selections : List Selection}
      (isGiven : ArgumentsWithin depth given arguments)
      (areApplied : Sequence (UsageWithin depth) applied directives)
      (isBelow : Optional set below selections) :
      SelectionOf depth set
        (.name responseName :: .punctuator .colon :: .name name :: (given ++ (applied ++ below)))
        (.field (some responseName) name arguments directives selections)
  | fragmentSpread {name : Name} {applied : List Token} {directives : List DirectiveUsage}
      (other : name ≠ "on") (areApplied : Sequence (UsageWithin depth) applied directives) :
      SelectionOf depth set (.punctuator .spread :: .name name :: applied)
        (.fragmentSpread name directives)
  | conditionalFragment {condition : Name} {applied below : List Token}
      {directives : List DirectiveUsage} {selections : List Selection}
      (areApplied : Sequence (UsageWithin depth) applied directives)
      (isBelow : set below selections) :
      SelectionOf depth set
        (.punctuator .spread :: .name "on" :: .name condition :: (applied ++ below))
        (.inlineFragment (some condition) directives selections)
  | fragment {applied below : List Token} {directives : List DirectiveUsage}
      {selections : List Selection} (areApplied : Sequence (UsageWithin depth) applied directives)
      (isBelow : set below selections) :
      SelectionOf depth set (.punctuator .spread :: (applied ++ below))
        (.inlineFragment none directives selections)

/-- Selections between braces. Below the depth there are none. -/
def SelectionSetWithin : Nat → Grammar (List Selection)
  | 0 => fun _ _ => False
  | depth + 1 =>
      Between .braceOpen (Items (SelectionOf depth (SelectionSetWithin depth))) .braceClose

/-- At least one selection, in a selection set with some depth below it. -/
def SelectionsWithin (depth : Nat) : Grammar (List Selection) :=
  Items (SelectionOf depth (SelectionSetWithin depth))

end Grammar

end FederationSplit.Syntax
