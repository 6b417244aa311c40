import FederationSplit.Files.Path
import FederationSplit.Text.Quoted

namespace FederationSplit.Files

inductive Entry where
  | directory
  | file (content : List UInt8)
  deriving DecidableEq, Repr, Inhabited

structure Limits where
  name : Option Nat
  path : Option Nat
  deriving DecidableEq, Repr, Inhabited

namespace Limits

def none : Limits where
  name := .none
  path := .none

def usual : Limits where
  name := some 255
  path := some 4095

def allows (limit : Option Nat) (size : Nat) : Bool :=
  limit.all (size ≤ ·)

end Limits

/-- The entries of a tree with their places. The root is always there and is not listed. -/
structure FileTree where
  limits : Limits
  entries : List (Place × Entry)
  deriving DecidableEq, Repr, Inhabited

def setEntry (place : Place) (entry : Entry) :
    List (Place × Entry) → List (Place × Entry)
  | [] => [(place, entry)]
  | (other, old) :: rest =>
      if other = place then (place, entry) :: rest
      else (other, old) :: setEntry place entry rest

inductive Fault where
  | missing
  | notDirectory
  | alreadyExists
  | isDirectory
  | nameTooLong
  | nullCharacter
  | unencodable
  deriving DecidableEq, Repr

open Text in
/--
What keeps code points from being a name. A name is turned into bytes before these are looked at, so
a half that has none goes before the null character, wherever they stand.
-/
def nameFault? (points : List CodePoint) : Option Fault :=
  if points.any fun point => point.isSurrogate && !isNamePoint point then some .unencodable
  else if points.all isNamePoint then none
  else some .nullCharacter

namespace FileTree

def empty : FileTree where
  limits := .usual
  entries := []

def admitsName (tree : FileTree) (name : String) : Bool :=
  Limits.allows tree.limits.name (sizeOfName name)

def admitsPath (tree : FileTree) (path : Path) : Bool :=
  Limits.allows tree.limits.path (sizeOfName path.toText)

def entry? (tree : FileTree) (place : Place) : Option Entry :=
  match place with
  | [] => some .directory
  | _ => tree.entries.lookup place

def isFile (tree : FileTree) (place : Place) : Bool :=
  match tree.entry? place with
  | some (.file _) => true
  | _ => false

def isDirectory (tree : FileTree) (place : Place) : Bool :=
  tree.entry? place = some .directory

def content? (tree : FileTree) (place : Place) : Option (List UInt8) :=
  match tree.entry? place with
  | some (.file content) => some content
  | _ => none

def set (tree : FileTree) (place : Place) (entry : Entry) : FileTree :=
  { tree with entries := setEntry place entry tree.entries }

def erase (tree : FileTree) (place : Place) : FileTree :=
  { tree with entries := tree.entries.filter (·.1 != place) }

/-- The places above a place, the highest first, without the root. -/
def ancestors (place : Place) : List Place :=
  (List.range' 1 (place.length - 1)).map place.take

def add (tree : FileTree) (place : Place) (entry : Entry) : FileTree :=
  ((ancestors place).foldl (fun tree above => tree.set above .directory) tree).set place entry

def changesSince (tree earlier : FileTree) : List (Place × Entry) :=
  tree.entries.filter fun (place, entry) => earlier.entry? place != some entry

def enter (tree : FileTree) (place : Place) (part : String) : Except Fault Place :=
  if part = aboveName then .ok place.dropLast
  else if !tree.admitsName part then .error .nameTooLong
  else
    match tree.entry? (place ++ [part]) with
    | some .directory => .ok (place ++ [part])
    | some (.file _) => .error .notDirectory
    | none => .error .missing

def directoryAt (tree : FileTree) (start : Place) (parts : List String) :
    Except Fault Place :=
  parts.foldlM tree.enter start

/--
Does a path lead to a file or directory? That cannot be said of a path that is too long, or comes to
a name that is.
-/
def holds (tree : FileTree) (workingDirectory : Place) (path : Path) : Except Fault Bool :=
  if !canBeName path.toText then .ok false
  else if !tree.admitsPath path then .error .nameTooLong
  else
    match tree.directoryAt (path.start workingDirectory) path.parts.dropLast with
    | .error .nameTooLong => .error .nameTooLong
    | .error _ => .ok false
    | .ok directory =>
        match path.parts.getLast? with
        | none => .ok true
        | some name =>
            if name = aboveName then .ok true
            else if !tree.admitsName name then .error .nameTooLong
            else .ok (tree.entry? (directory ++ [name])).isSome

def createDirectory (tree : FileTree) (start : Place) (above : List String) (name : String) :
    Except Fault FileTree := do
  let directory ← tree.directoryAt start above
  if !tree.admitsName name then throw .nameTooLong
  if name = aboveName || (tree.entry? (directory ++ [name])).isSome then throw .alreadyExists
  pure (tree.set (directory ++ [name]) .directory)

end FileTree

structure FileError where
  fault : Fault
  path : Path
  deriving DecidableEq, Repr

/-- A change of a tree of files. What it did before it fails stays. -/
abbrev Change := ExceptT FileError (StateM FileTree)

def Change.apply {α : Type} (change : Change α) (tree : FileTree) :
    Except FileError α × FileTree :=
  StateT.run (ExceptT.run change) tree

namespace Change

def ensureDirectory (isAbsolute : Bool) (start : Place) (above : List String) (name : String) :
    Change Unit := do
  let tree ← get
  match tree.createDirectory start above name with
  | .ok changed => set changed
  | .error fault =>
      match tree.directoryAt start (above ++ [name]) with
      | .ok _ => pure ()
      | .error _ => throw { fault, path := { isAbsolute, parts := above ++ [name] } }

/--
Creates a directory and those above it that are missing. The names come last first; each directory
is tried before the one above it, so that only missing ones are created.
-/
def createDirectories (isAbsolute : Bool) (start : Place) : List String → Change Unit
  | [] => pure ()
  | name :: reversedAbove => do
      match (← get).createDirectory start reversedAbove.reverse name with
      | .error .missing => createDirectories isAbsolute start reversedAbove
      | _ => pure ()
      ensureDirectory isAbsolute start reversedAbove.reverse name

def refuseUnusable (path : Path) (names : List String) : Change Unit :=
  match nameFault? (names.flatMap fun name => Text.codePoints name.toList) with
  | some fault => throw { fault, path }
  | none => pure ()

def refuseLong (path : Path) : Change Unit := do
  if !(← get).admitsPath path then throw { fault := .nameTooLong, path }

def openDirectory (workingDirectory : Place) (path : Path) : Change Place := do
  match (← get).directoryAt (path.start workingDirectory) path.parts.dropLast with
  | .ok directory => pure directory
  | .error fault => throw { fault, path := path.parent }

/--
Creates or empties a file and fills it, unless there is nothing that can be put in. The place must
not hold a directory, and the name that the file has until it is filled must not be too long.
-/
def putFile (path : Path) (name : String) (target : Place) (content : Option (List UInt8)) :
    Change Unit := do
  refuseLong { path with parts := path.parts.dropLast ++ [name] }
  if !(← get).admitsName name then throw { fault := .nameTooLong, path }
  if (← get).isDirectory target then throw { fault := .isDirectory, path }
  modify (·.set target (.file []))
  match content with
  | some content => modify (·.set target (.file content))
  | none => throw { fault := .unencodable, path }

def temporaryName (name random : String) : String :=
  "." ++ name ++ "." ++ random ++ ".tmp"

/-- A name that no file of a tree has, since it is longer than all of them together. -/
def unusedName (tree : FileTree) (name : String) : String :=
  let padding := (tree.entries.flatMap (·.1)).flatMap fun other => other.toList.map fun _ => '0'
  temporaryName name (String.ofList padding)

def moveFile (path : Path) (source target : Place) : Change Unit := do
  let tree ← get
  if tree.isDirectory target then throw { fault := .isDirectory, path }
  match tree.entry? source with
  | some entry => modify fun tree => (tree.erase source).set target entry
  | none => throw { fault := .missing, path }

/-- Writes a file under a temporary name and then moves it; on failure nothing is left of it. -/
def putFileAtomically (path : Path) (directory target : Place) (content : Option (List UInt8)) :
    Change Unit := do
  let temporary := directory ++ [unusedName (← get) path.name]
  try
    putFile path (temporaryName path.name "00000000") temporary content
    moveFile path temporary target
  catch error => do
    modify (·.erase temporary)
    throw error

def targetIn (directory : Place) (path : Path) : Place :=
  match path.parts.getLast? with
  | none => directory
  | some name => Path.follow directory name

/--
Writes a file, whose missing directories are created first. A text without bytes has no content, but
the file and its directories have been created by the time that this matters.
-/
def writeFile (isAtomic : Bool) (workingDirectory : Place) (path : Path)
    (content : Option (List UInt8)) : Change Unit := do
  refuseUnusable path path.parts.dropLast
  refuseLong path.parent
  createDirectories path.isAbsolute (path.start workingDirectory) path.parts.dropLast.reverse
  refuseUnusable path path.parts
  let directory ← openDirectory workingDirectory path
  let target := targetIn directory path
  if isAtomic then putFileAtomically path directory target content
  else putFile path path.name target content

end Change

def Fault.report? : Fault → Option (Nat × String)
  | .missing => some (2, "No such file or directory")
  | .notDirectory => some (20, "Not a directory")
  | .alreadyExists => some (17, "File exists")
  | .isDirectory => some (21, "Is a directory")
  | .nameTooLong => some (36, "File name too long")
  | .nullCharacter | .unencodable => none

def FileError.message (error : FileError) : String :=
  match error.fault.report? with
  | some (number, words) =>
      let path := Text.Quoted.encode error.path.toText
      s!"[Errno {number}] {words}: {path}"
  | none =>
      if error.fault = .unencodable then "surrogates not allowed" else "embedded null byte"

end FederationSplit.Files
