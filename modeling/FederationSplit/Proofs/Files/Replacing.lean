import FederationSplit.Proofs.Files.Standing

namespace FederationSplit.Files

theorem setEntry_setEntry (place : Place) (entry old : Entry) (entries : List (Place × Entry)) :
    setEntry place entry (setEntry place old entries) = setEntry place entry entries := by
  induction entries with
  | nil => simp [setEntry]
  | cons first rest induction =>
      by_cases same : first.1 = place
      · simp [setEntry, same]
      · simp [setEntry, same, induction]

theorem erased_setEntry {place : Place} (entry : Entry) {entries : List (Place × Entry)}
    (free : entries.lookup place = none) :
    (setEntry place entry entries).filter (·.1 != place) = entries := by
  induction entries with
  | nil => simp [setEntry]
  | cons first rest induction =>
      rw [lookup_cons_entry] at free
      split at free
      · cases free
      · next other =>
          rw [setEntry, if_neg (Ne.symm other),
            List.filter_cons_of_pos (by simpa using Ne.symm other), induction free]

namespace FileTree

variable {tree : FileTree} {place : Place}

theorem set_set (place : Place) (entry old : Entry) (tree : FileTree) :
    (tree.set place old).set place entry = tree.set place entry :=
  congrArg (FileTree.mk tree.limits) (setEntry_setEntry ..)

theorem erase_set (below : place ≠ []) (free : tree.entry? place = none) (entry : Entry) :
    (tree.set place entry).erase place = tree := by
  obtain ⟨part, rest, rfl⟩ := List.exists_cons_of_ne_nil below
  exact congrArg (FileTree.mk tree.limits) (erased_setEntry entry free)

end FileTree

namespace Change

open FileTree

variable {tree : FileTree}

theorem apply_putFile_of_unlimited (unlimited : tree.limits = .none) (path : Path) (name : String)
    (target : Place) (content : Option (List UInt8)) :
    (putFile path name target content).apply tree =
      if tree.isDirectory target then (.error { fault := .isDirectory, path }, tree)
      else
        match content with
        | some bytes => (.ok (), tree.set target (.file bytes))
        | none => (.error { fault := .unencodable, path }, tree.set target (.file [])) := by
  have fits (path : Path) : tree.admitsPath path = true := by
    rw [admitsPath, unlimited]
    rfl
  have admitted : tree.admitsName name = true := by
    rw [admitsName, unlimited]
    rfl
  unfold putFile refuseLong
  cases occupied : tree.isDirectory target with
  | true => simp [apply_bind, fits, admitted, occupied]
  | false => cases content <;> simp [apply_bind, fits, admitted, occupied, set_set]

/-- A file that is replaced in one step is written only if all of it can be put in its place. -/
theorem apply_putFileAtomically_of_unlimited (unlimited : tree.limits = .none) (path : Path)
    (directory target : Place) (content : Option (List UInt8)) :
    (∃ error, content = none ∧
        (putFileAtomically path directory target content).apply tree = (.error error, tree)) ∨
      ∃ bytes, content = some bytes ∧
        (putFileAtomically path directory target content).apply tree =
          if tree.isDirectory target then (.error { fault := .isDirectory, path }, tree)
          else (.ok (), tree.set target (.file bytes)) := by
  obtain ⟨temporary, below, free, same⟩ :=
    apply_putFileAtomically_eq path directory target content tree
  rw [same, apply_tryCatch, apply_bind]
  have unused : tree.isDirectory temporary = false := by
    rw [isDirectory, free]
    rfl
  rw [apply_putFile_of_unlimited unlimited, unused, if_neg Bool.false_ne_true]
  cases content with
  | none =>
      exact .inl ⟨{ fault := .unencodable, path }, rfl, by simp [apply_bind, erase_set below free]⟩
  | some bytes =>
      refine .inr ⟨bytes, rfl, ?_⟩
      have held : FileTree.entry? (tree.set temporary (.file bytes)) temporary =
          some (.file bytes) := by
        rw [entry?_set below, if_pos rfl]
      have same : (tree.set temporary (.file bytes)).isDirectory target =
          tree.isDirectory target := by
        rw [isDirectory, isDirectory, entry?_set below]
        split
        · next isTemporary =>
            rw [isTemporary, free]
            rfl
        · rfl
      unfold moveFile
      cases occupied : tree.isDirectory target with
      | true => simp [apply_bind, same, occupied, erase_set below free]
      | false => simp [apply_bind, same, occupied, held, erase_set below free]

theorem apply_put_of_unlimited (unlimited : tree.limits = .none) (isAtomic : Bool) (path : Path)
    (directory target : Place) (bytes : List UInt8) :
    (if isAtomic then putFileAtomically path directory target (some bytes)
      else putFile path path.name target (some bytes) : Change Unit).apply tree =
        if tree.isDirectory target then (.error { fault := .isDirectory, path }, tree)
        else (.ok (), tree.set target (.file bytes)) := by
  cases isAtomic with
  | true =>
      rw [if_pos rfl]
      rcases apply_putFileAtomically_of_unlimited unlimited path directory target (some bytes) with
        ⟨_, none, -⟩ | ⟨_, same, done⟩
      · cases none
      · cases same
        exact done
  | false =>
      rw [if_neg Bool.false_ne_true]
      exact apply_putFile_of_unlimited unlimited ..

section

variable {workingDirectory : Place} {path : Path}

theorem stands_start (stands : Stands workingDirectory tree) (path : Path) :
    Stands (path.start workingDirectory) tree where
  closed := stands.closed
  start := by
    unfold Path.start
    split
    · rfl
    · exact stands.start

theorem writeFile_isAtomic_eq (unlimited : tree.limits = .none) (workingDirectory : Place)
    (path : Path) (bytes : List UInt8) :
    (writeFile true workingDirectory path (some bytes)).apply tree =
      (writeFile false workingDirectory path (some bytes)).apply tree := by
  obtain ⟨outcome, between, approach, ran⟩ := exists_approach workingDirectory path tree
  rw [ran, ran]
  cases outcome with
  | error error => rfl
  | ok directory =>
      have unlimited := approach.adds.limits.trans unlimited
      exact (apply_put_of_unlimited unlimited true ..).trans
        (apply_put_of_unlimited unlimited false ..).symm

/-- A path holds a file, the places on the way to it are directories, and all else is as before. -/
structure Replaces (workingDirectory : Place) (path : Path) (bytes : List UInt8)
    (before after : FileTree) : Prop where
  limits : after.limits = before.limits
  target : before.entry? (path.place workingDirectory) ≠ some .directory
  above (place : Place) (passed : place ∈ path.parent.placesAlong workingDirectory) :
    before.entry? place = none ∨ before.entry? place = some .directory
  entries (place : Place) : after.entry? place =
    if place = path.place workingDirectory then some (.file bytes)
    else if place ∈ path.parent.placesAlong workingDirectory then some .directory
    else before.entry? place

theorem replaces_of_set {before between : FileTree} {bytes : List UInt8}
    (adds : AddsDirectories (path.parent.placesAlong workingDirectory) before between)
    (passed : ∀ place ∈ path.parent.placesAlong workingDirectory,
      between.entry? place = some .directory)
    (unused : between.isDirectory (path.place workingDirectory) = false) :
    Replaces workingDirectory path bytes before
      (between.set (path.place workingDirectory) (.file bytes)) where
  limits := adds.limits
  target isDirectory := by
    rcases adds.entries (path.place workingDirectory) with same | ⟨-, free, -⟩
    · rw [FileTree.isDirectory, same, isDirectory] at unused
      cases unused
    · rw [free] at isDirectory
      cases isDirectory
  above place along := by
    rcases adds.entries place with same | ⟨-, free, -⟩
    · rw [← same]
      exact .inr (passed place along)
    · exact .inl free
  entries place := by
    rw [entry?_set (ne_nil_of_isDirectory_eq_false unused)]
    split
    · rfl
    · split
      · exact passed place ‹_›
      · rcases adds.entries place with same | ⟨along, -, -⟩
        · exact same
        · contradiction

theorem replaces_of_writeFile (unlimited : tree.limits = .none)
    (stands : Stands workingDirectory tree) {isAtomic : Bool} {content : Option (List UInt8)}
    {after : FileTree}
    (written : (writeFile isAtomic workingDirectory path content).apply tree = (.ok (), after)) :
    ∃ bytes, content = some bytes ∧ Replaces workingDirectory path bytes tree after := by
  cases content with
  | none =>
      have writing := writing_writeFile isAtomic workingDirectory path none tree
      rw [written] at writing
      cases writing with
      | written fits => cases fits
  | some bytes =>
      obtain ⟨outcome, between, approach, ran⟩ := exists_approach workingDirectory path tree
      have adds := approach.adds
      rw [ran] at written
      cases approach with
      | refused | stopped | blocked => cases written
      | @reached directory _ created found =>
          dsimp only at written
          rw [apply_put_of_unlimited (adds.limits.trans unlimited)] at written
          cases occupied : between.isDirectory (path.place workingDirectory) with
          | true =>
              rw [occupied, if_pos rfl] at written
              cases written
          | false =>
              rw [occupied, if_neg Bool.false_ne_true] at written
              cases written
              have standing := stands_createDirectories (stands_start stands path)
                path.isAbsolute path.parts.dropLast.reverse
              rw [created] at standing
              refine ⟨bytes, rfl, replaces_of_set adds ?_ occupied⟩
              rw [placesAlong_eq]
              exact (standing.directoryAt found).2

section

variable (unlimited : tree.limits = .none) (stands : Stands workingDirectory tree)
  (down : aboveName ∉ path.parts)

include unlimited stands down

private theorem leadsAfresh_of_down :
    (∃ error, (createDirectories path.isAbsolute (path.start workingDirectory)
        path.parts.dropLast.reverse).apply tree = (.error error, tree)) ∨
      ∃ changed, (createDirectories path.isAbsolute (path.start workingDirectory)
          path.parts.dropLast.reverse).apply tree = (.ok (), changed) ∧
        LeadsAfresh (path.start workingDirectory) path.parts.dropLast tree changed := by
  have above : aboveName ∉ path.parts.dropLast.reverse := fun above =>
    down (List.dropLast_subset _ (List.mem_reverse.mp above))
  have leads := apply_createDirectories_of_down unlimited (stands_start stands path)
    path.isAbsolute above
  rwa [List.reverse_reverse] at leads

/-- A write that does not come to the directory of its file has changed nothing. -/
private theorem Approach.eq_of_error
    (named : nameFault? (path.parts.flatMap fun name => Text.codePoints name.toList) = none)
    {error : FileError} {between : FileTree}
    (approach : Approach workingDirectory path tree (.error error) between) : between = tree := by
  have leads := leadsAfresh_of_down unlimited stands down
  cases approach with
  | refused => rfl
  | stopped created =>
      rcases leads with ⟨_, same⟩ | ⟨_, done, -⟩
      · cases created.symm.trans same
        rfl
      · cases created.symm.trans done
  | blocked created unfit =>
      rcases leads with ⟨_, same⟩ | ⟨_, done, directory, found, -⟩
      · cases created.symm.trans same
      · cases created.symm.trans done
        rcases unfit with unfit | ⟨_, missing⟩
        · exact absurd named unfit
        · cases missing.symm.trans found

private theorem Approach.isDirectory_of_ok {directory : Place} {between : FileTree}
    (approach : Approach workingDirectory path tree (.ok directory) between) :
    between = tree ∨ between.isDirectory (path.place workingDirectory) = false := by
  cases approach with
  | reached created found =>
      rcases leadsAfresh_of_down unlimited stands down with
        ⟨_, same⟩ | ⟨_, done, other, otherFound, fresh⟩
      · cases created.symm.trans same
      · cases created.symm.trans done
        cases found.symm.trans otherFound
        rcases fresh with same | free
        · exact .inl same
        · cases last : path.parts.getLast? with
          | none =>
              rw [List.getLast?_eq_none_iff.mp last] at created
              cases created
              exact .inl rfl
          | some name =>
              have isDown : name ≠ aboveName := by
                rintro rfl
                exact down (List.mem_of_getLast? last)
              have target : path.place workingDirectory = directory ++ [name] := by
                rw [← targetIn_eq_place (directoryAt_eq_foldl found), targetIn, last]
                exact if_neg isDown
              rw [target, FileTree.isDirectory, free]
              exact .inr rfl

end

/-- On a way that only leads down, what can be written and is not leaves all as it was. -/
theorem writeFile_error_of_down (unlimited : tree.limits = .none)
    (stands : Stands workingDirectory tree) (down : aboveName ∉ path.parts)
    (named : nameFault? (path.parts.flatMap fun name => Text.codePoints name.toList) = none)
    {isAtomic : Bool} {bytes : List UInt8} {error : FileError} {after : FileTree}
    (failed : (writeFile isAtomic workingDirectory path (some bytes)).apply tree =
      (.error error, after)) : after = tree := by
  obtain ⟨outcome, between, approach, ran⟩ := exists_approach workingDirectory path tree
  have adds := approach.adds
  rw [ran] at failed
  cases outcome with
  | error =>
      cases failed
      exact approach.eq_of_error unlimited stands down named
  | ok directory =>
      dsimp only at failed
      rw [apply_put_of_unlimited (adds.limits.trans unlimited)] at failed
      split at failed
      · next occupied =>
          cases failed
          refine (approach.isDirectory_of_ok unlimited stands down).resolve_right fun free => ?_
          rw [free] at occupied
          cases occupied
      · cases failed

end

end Change

end FederationSplit.Files
