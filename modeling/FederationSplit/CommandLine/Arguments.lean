namespace FederationSplit.CommandLine

inductive OptionName where
  | config
  | serviceName
  | markerSelection
  | verbose
  | help
  deriving DecidableEq, Repr

namespace OptionName

def all : List OptionName := [.config, .serviceName, .markerSelection, .verbose, .help]

def long : OptionName → String
  | .config => "--config"
  | .serviceName => "--service-name"
  | .markerSelection => "--marker-selection"
  | .verbose => "--verbose"
  | .help => "--help"

def short? : OptionName → Option Char
  | .config => some 'c'
  | .serviceName => some 's'
  | .verbose => some 'v'
  | .markerSelection | .help => none

def takesValue : OptionName → Bool
  | .config | .serviceName | .markerSelection => true
  | .verbose | .help => false

/-- The option with a long name. Names cannot be cut short. -/
def ofLong? (text : String) : Option OptionName :=
  all.find? (·.long == text)

def ofShort? (character : Char) : Option OptionName :=
  all.find? (·.short? = some character)

end OptionName

inductive WordError where
  | unknownOption (text : String)
  | valueMissing (option : OptionName)
  | valueUnexpected (option : OptionName)
  deriving DecidableEq, Repr

structure Setting where
  option : OptionName
  value : Option String
  deriving DecidableEq, Repr

structure Arguments where
  settings : List Setting
  positional : List String
  deriving DecidableEq, Repr

namespace Arguments

def gives (arguments : Arguments) (option : OptionName) : Bool :=
  arguments.settings.any (·.option = option)

def value? (arguments : Arguments) (option : OptionName) : Option String :=
  (arguments.settings.filter (·.option = option)).getLast?.bind (·.value)

end Arguments

structure WordReader where
  arguments : Arguments
  awaiting : Option OptionName
  optionsEnded : Bool
  deriving DecidableEq, Repr

namespace WordReader

def start : WordReader where
  arguments := { settings := [], positional := [] }
  awaiting := none
  optionsEnded := false

def give (reader : WordReader) (option : OptionName) (value : Option String) : WordReader :=
  { reader with
    arguments :=
      { reader.arguments with settings := reader.arguments.settings ++ [{ option, value }] }
    awaiting := none }

def addPositional (reader : WordReader) (word : String) : WordReader :=
  { reader with
    arguments := { reader.arguments with positional := reader.arguments.positional ++ [word] } }

def readLong (reader : WordReader) (name : String) (value : Option String) :
    Except WordError WordReader :=
  match OptionName.ofLong? name with
  | none => .error (.unknownOption name)
  | some option =>
      match option.takesValue, value with
      | true, some value => .ok (reader.give option (some value))
      | true, none => .ok { reader with awaiting := some option }
      | false, some _ => .error (.valueUnexpected option)
      | false, none => .ok (reader.give option none)

/-- Takes in short names. The first one that takes a value takes the rest of the word for it. -/
def readShort (reader : WordReader) : List Char → Except WordError WordReader
  | [] => .ok reader
  | character :: rest =>
      match OptionName.ofShort? character with
      | none => .error (.unknownOption (String.ofList ['-', character]))
      | some option =>
          if option.takesValue then
            if rest.isEmpty then .ok { reader with awaiting := some option }
            else .ok (reader.give option (some (String.ofList rest)))
          else (reader.give option none).readShort rest

def splitAtEquals (word : List Char) : String × Option String :=
  let name := String.ofList (word.takeWhile (· != '='))
  match word.dropWhile (· != '=') with
  | [] => (name, none)
  | _ :: value => (name, some (String.ofList value))

def readWord (reader : WordReader) (word : String) : Except WordError WordReader :=
  if reader.optionsEnded then .ok (reader.addPositional word)
  else
    match word.toList with
    | ['-', '-'] => .ok { reader with optionsEnded := true }
    | '-' :: '-' :: _ =>
        let (name, value) := splitAtEquals word.toList
        reader.readLong name value
    | '-' :: character :: rest => reader.readShort (character :: rest)
    | _ => .ok (reader.addPositional word)

def step (reader : WordReader) (word : String) : Except WordError WordReader :=
  match reader.awaiting with
  | some option => .ok (reader.give option (some word))
  | none => reader.readWord word

end WordReader

def Arguments.ofWords (words : List String) : Except WordError Arguments := do
  let reader ← words.foldlM WordReader.step WordReader.start
  match reader.awaiting with
  | some option => throw (.valueMissing option)
  | none => pure reader.arguments

def WordError.message : WordError → String
  | .unknownOption text => "No such option: " ++ text
  | .valueMissing option => s!"Option '{option.long}' requires an argument."
  | .valueUnexpected option => s!"Option '{option.long}' does not take a value."

end FederationSplit.CommandLine
