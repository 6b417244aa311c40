import FederationSplit.Syntax.Document

namespace FederationSplit.Syntax

inductive Punctuator where
  | bang
  | dollar
  | ampersand
  | parenOpen
  | parenClose
  | spread
  | colon
  | equals
  | at
  | bracketOpen
  | bracketClose
  | braceOpen
  | pipe
  | braceClose
  deriving DecidableEq, Repr

def Punctuator.text : Punctuator → String
  | .bang => "!"
  | .dollar => "$"
  | .ampersand => "&"
  | .parenOpen => "("
  | .parenClose => ")"
  | .spread => "..."
  | .colon => ":"
  | .equals => "="
  | .at => "@"
  | .bracketOpen => "["
  | .bracketClose => "]"
  | .braceOpen => "\x7b"
  | .pipe => "|"
  | .braceClose => "\x7d"

def Punctuator.ofChar? : Char → Option Punctuator
  | '!' => some .bang
  | '$' => some .dollar
  | '&' => some .ampersand
  | '(' => some .parenOpen
  | ')' => some .parenClose
  | ':' => some .colon
  | '=' => some .equals
  | '@' => some .at
  | '[' => some .bracketOpen
  | ']' => some .bracketClose
  | '\x7b' => some .braceOpen
  | '|' => some .pipe
  | '\x7d' => some .braceClose
  | _ => none

inductive Token where
  | punctuator (mark : Punctuator)
  | name (text : Name)
  | int (digits : String)
  | float (digits : String)
  | string (literal : StringLiteral)
  deriving DecidableEq, Repr

def Token.text? : Token → Option String
  | .punctuator _ => none
  | .name text | .int text | .float text => some text
  | .string literal => some literal.text

def Token.describe : Token → String
  | .punctuator mark => s!"'{mark.text}'"
  | .name text => s!"Name '{text}'"
  | .int digits => s!"Int '{digits}'"
  | .float digits => s!"Float '{digits}'"
  | .string literal =>
      if literal.isBlock then s!"BlockString '{literal.text}'" else s!"String '{literal.text}'"

end FederationSplit.Syntax
