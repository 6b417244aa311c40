import FederationSplit.Syntax.Error

namespace FederationSplit.Syntax

/-- The tokens of a text up to its end, or up to the first fault. -/
inductive TokenStream where
  | finish (position : Nat)
  | fault (error : SyntaxError)
  | token (head : Token) (position : Nat) (rest : TokenStream)
  deriving DecidableEq, Repr

namespace TokenStream

def length : TokenStream → Nat
  | .token _ _ rest => rest.length + 1
  | _ => 0

def head? : TokenStream → Option Token
  | .token head _ _ => some head
  | _ => none

def position : TokenStream → Nat
  | .finish position => position
  | .fault error => error.position
  | .token _ position _ => position

/-- What follows the next token. A fault there is found at once. -/
def tail : TokenStream → Except SyntaxError TokenStream
  | .token _ _ (.fault error) => .error error
  | .token _ _ rest => .ok rest
  | rest => .ok rest

end TokenStream

end FederationSplit.Syntax
