namespace FederationSplit.CommandLine.WorkflowCommand

def replaceEach (character : Char) (replacement text : List Char) : List Char :=
  text.flatMap fun other => if other = character then replacement else [other]

/--
Line ends, and the mark that introduces escapes, are escaped. The mark comes first: the escapes of
line ends hold it.
-/
def encode (message : List Char) : List Char :=
  replaceEach '\n' ['%', '0', 'A']
    (replaceEach '\r' ['%', '0', 'D'] (replaceEach '%' ['%', '2', '5'] message))

def error (message : String) : String :=
  "::error::" ++ String.ofList (encode message.toList)

def escapeCharacter (character : Char) : List Char :=
  match character with
  | '%' => ['%', '2', '5']
  | '\r' => ['%', '0', 'D']
  | '\n' => ['%', '0', 'A']
  | _ => [character]

/-- The message that is read from left to right. What is no escape stands for itself. -/
def decode : List Char → List Char
  | [] => []
  | '%' :: '2' :: '5' :: rest => '%' :: decode rest
  | '%' :: '0' :: 'D' :: rest => '\r' :: decode rest
  | '%' :: '0' :: 'A' :: rest => '\n' :: decode rest
  | character :: rest => character :: decode rest

end FederationSplit.CommandLine.WorkflowCommand
