import FederationSplit.Output.SchemaFile
import FederationSplit.Proofs.Files.Replacing

namespace FederationSplit.Output

open FederationSplit.Files
open FederationSplit.Files.FileTree (AddsDirectories Stands)
open FederationSplit.Files.Change (PutsFile Replaces)
open FederationSplit.Text

/--
Nothing but what a tree holds can keep a text from being written to a path: the path only leads
down, its names can be names of files, and the text has bytes.
-/
structure Writable (path : Path) (text : String) : Prop where
  down : aboveName ∉ path.parts
  named : nameFault? (path.parts.flatMap fun name => codePoints name.toList) = none
  encodable : Utf8.encode? text ≠ none

/-- What a write that fails can leave behind. -/
def Remains (isAtomic : Bool) (workingDirectory : Place) (path : Path) (text : String)
    (before after : FileTree) : Prop :=
  AddsDirectories (path.parent.placesAlong workingDirectory) before after ∨
    isAtomic = false ∧ Utf8.encode? text = none ∧
      ∃ between, AddsDirectories (path.parent.placesAlong workingDirectory) before between ∧
        PutsFile (path.place workingDirectory) [] between after

section

variable {options : WriteOptions} {workingDirectory : Place} {path : Path} {text : String}
  {tree after : FileTree}

theorem writeSchema_eq_ok_iff :
    writeSchema options workingDirectory path text tree = (.ok (), after) ↔
      (options.isChecked = true → checkText text = .ok ()) ∧
        (Change.writeFile options.isAtomic workingDirectory path (Utf8.encode? text)).apply tree =
          (.ok (), after) := by
  unfold writeSchema
  dsimp only
  generalize (Change.writeFile options.isAtomic workingDirectory path
    (Utf8.encode? text)).apply tree = written
  obtain ⟨_ | _, changed⟩ := written <;> cases options.isChecked <;> cases checkText text <;>
    simp [Except.mapError]

theorem writeSchema_eq_error {error : WriteError}
    (failed : writeSchema options workingDirectory path text tree = (.error error, after)) :
    (∃ cause, error = .text cause) ∧ after = tree ∨
      ∃ cause, error = .file cause ∧
        (Change.writeFile options.isAtomic workingDirectory path (Utf8.encode? text)).apply tree =
          (.error cause, after) := by
  unfold writeSchema at failed
  dsimp only at failed
  split at failed
  · cases failed
    exact .inl ⟨⟨_, rfl⟩, rfl⟩
  · generalize (Change.writeFile options.isAtomic workingDirectory path
      (Utf8.encode? text)).apply tree = written at failed
    obtain ⟨_ | _, changed⟩ := written <;> cases failed
    exact .inr ⟨_, rfl, rfl⟩

theorem remains_of_writeFile {isAtomic : Bool} {error : FileError}
    (failed : (Change.writeFile isAtomic workingDirectory path (Utf8.encode? text)).apply tree =
      (.error error, after)) : Remains isAtomic workingDirectory path text tree after := by
  have writing := Change.writing_writeFile isAtomic workingDirectory path (Utf8.encode? text) tree
  rw [failed] at writing
  cases writing with
  | refused adds => exact .inl adds
  | emptied direct unfit adds reached puts => exact .inr ⟨direct, unfit, _, adds, puts⟩

/--
A write puts all of a text in its place, or nothing if the text and its path can be written at all.
A text that is refused has changed nothing in any case. Whether a write succeeds, and the tree that
it then leaves, do not depend on the way of writing.
-/
theorem writeSchema_allOrNothing (isChecked : Bool) (path : Path) (text : String)
    (unlimited : tree.limits = .none) (stands : Stands workingDirectory tree) :
    let write (isAtomic : Bool) :=
      writeSchema { isChecked, isAtomic } workingDirectory path text tree
    (∀ isAtomic error after, write isAtomic = (.error error, after) →
      Remains isAtomic workingDirectory path text tree after ∧
        (Writable path text ∨ (∃ cause, error = .text cause) → after = tree)) ∧
    (∀ isAtomic after, write isAtomic = (.ok (), after) →
      ∃ bytes, Utf8.encode? text = some bytes ∧
        Replaces workingDirectory path bytes tree after) ∧
    ∀ after, write true = (.ok (), after) ↔ write false = (.ok (), after) := by
  refine ⟨fun isAtomic error after failed => ?_, fun isAtomic after written => ?_, fun after => ?_⟩
  · rcases writeSchema_eq_error failed with ⟨-, rfl⟩ | ⟨cause, rfl, unwritten⟩
    · exact ⟨.inl (.refl _ _), fun _ => rfl⟩
    · refine ⟨remains_of_writeFile unwritten, fun reason => ?_⟩
      rcases reason with fit | ⟨_, other⟩
      · obtain ⟨bytes, encoded⟩ := Option.ne_none_iff_exists'.mp fit.encodable
        rw [encoded] at unwritten
        exact Change.writeFile_error_of_down unlimited stands fit.down fit.named unwritten
      · cases other
  · exact Change.replaces_of_writeFile unlimited stands (writeSchema_eq_ok_iff.mp written).2
  · rw [writeSchema_eq_ok_iff, writeSchema_eq_ok_iff]
    dsimp only
    cases encoded : Utf8.encode? text with
    | some bytes => rw [Change.writeFile_isAtomic_eq unlimited]
    | none =>
        -- Neither way succeeds, as there is nothing to put in.
        refine and_congr_right fun _ => iff_of_false ?_ ?_ <;>
        · intro written
          obtain ⟨_, encoded, -⟩ := Change.replaces_of_writeFile unlimited stands written
          cases encoded

end

def workingTree : FileTree where
  limits := .none
  entries := [(["work"], .directory), (["work", "old"], .file [0x23])]

/--
A write that fails can leave a directory: one that the path leads out of again, or one that is to
hold a file whose name has the null character. A file that is not replaced in one step can be left
empty, as half of a surrogate pair has no bytes.
-/
theorem remains_of_failed_writes :
    let write (isAtomic : Bool) (parts : List String) (text : String) :=
      writeSchema { isChecked := false, isAtomic } ["work"] { isAbsolute := false, parts } text
        workingTree
    let detour := write true ["k", ".."] ""
    let unnamed := write true ["k", "\x00"] ""
    let halved := write false ["old"] (String.ofList (CodePoint.surrogate 0).held)
    detour.1.isOk = false ∧ detour.2 = workingTree.set ["work", "k"] .directory ∧
      unnamed.1.isOk = false ∧ unnamed.2 = workingTree.set ["work", "k"] .directory ∧
      halved.1.isOk = false ∧ halved.2 = workingTree.set ["work", "old"] (.file []) := by
  decide

theorem stands_workingTree : Stands ["work"] workingTree where
  closed place below taken := by
    obtain ⟨part, rest, rfl⟩ := List.exists_cons_of_ne_nil below
    have held : (part :: rest) = ["work"] ∨ (part :: rest) = ["work", "old"] := by
      by_contra other
      rw [not_or] at other
      refine taken ?_
      change workingTree.entries.lookup _ = none
      rw [workingTree, lookup_cons_entry, if_neg other.1, lookup_cons_entry, if_neg other.2]
      rfl
    rcases held with same | same <;> rw [same] <;> rfl
  start := rfl

/-- Below a file nothing is written, and elsewhere the missing directories are created. -/
theorem writeSchema_workingTree :
    let write (parts : List String) :=
      writeSchema { isChecked := false, isAtomic := true } ["work"]
        { isAbsolute := false, parts } "" workingTree
    workingTree.limits = .none ∧ Stands ["work"] workingTree ∧
      (write ["old", "new"]).2 = workingTree ∧
        Replaces ["work"] { isAbsolute := false, parts := ["new", "sub", "schema"] } [] workingTree
          (write ["new", "sub", "schema"]).2 := by
  refine ⟨rfl, stands_workingTree, ?_, ?_⟩
  · obtain ⟨failing, -⟩ := writeSchema_allOrNothing false
      { isAbsolute := false, parts := ["old", "new"] } "" rfl stands_workingTree
    obtain ⟨error, failed⟩ : ∃ error,
        (writeSchema { isChecked := false, isAtomic := true } ["work"]
          { isAbsolute := false, parts := ["old", "new"] } "" workingTree).1 = .error error :=
      ⟨_, rfl⟩
    refine (failing true error _ (Prod.ext failed rfl)).2 (.inl ?_)
    exact { down := by decide, named := by decide, encodable := by decide }
  · obtain ⟨-, succeeding, -⟩ := writeSchema_allOrNothing false
      { isAbsolute := false, parts := ["new", "sub", "schema"] } "" rfl stands_workingTree
    obtain ⟨bytes, encoded, replaces⟩ := succeeding true _ (Prod.ext rfl rfl)
    cases encoded
    exact replaces

end FederationSplit.Output
