import FederationSplit.Files.FileTree
import Mathlib.Data.List.Basic

namespace FederationSplit.Files

theorem lookup_cons_entry (other held : Place) (entry : Entry) (rest : List (Place × Entry)) :
    ((held, entry) :: rest).lookup other =
      if other = held then some entry else rest.lookup other := by
  rw [List.lookup_cons]
  by_cases same : other = held
  · rw [if_pos same, same, beq_self_eq_true]
  · rw [if_neg same, beq_eq_false_iff_ne.mpr same]

theorem lookup_setEntry (place other : Place) (entry : Entry) (entries : List (Place × Entry)) :
    (setEntry place entry entries).lookup other =
      if other = place then some entry else entries.lookup other := by
  induction entries with
  | nil => simp [setEntry, lookup_cons_entry]
  | cons first rest induction =>
      obtain ⟨held, old⟩ := first
      by_cases same : held = place
      · subst same
        rw [setEntry, if_pos rfl, lookup_cons_entry, lookup_cons_entry]
        split <;> rfl
      · simp only [setEntry, if_neg same, lookup_cons_entry, induction]
        by_cases found : other = held <;> simp_all

theorem lookup_erased (place other : Place) (entries : List (Place × Entry)) :
    (entries.filter (·.1 != place)).lookup other =
      if other = place then none else entries.lookup other := by
  induction entries with
  | nil => simp
  | cons first rest induction =>
      obtain ⟨held, old⟩ := first
      by_cases same : held = place
      · subst same
        simp only [List.filter_cons, bne_self_eq_false, Bool.false_eq_true, if_false, induction,
          lookup_cons_entry]
        split <;> rfl
      · rw [List.filter_cons_of_pos (by simpa using same), lookup_cons_entry, lookup_cons_entry,
          induction]
        by_cases found : other = held <;> simp_all

namespace FileTree

variable {tree before after between : FileTree} {places : List Place} {place : Place}

theorem entry?_set (below : place ≠ []) (entry : Entry) (other : Place) :
    FileTree.entry? (tree.set place entry) other =
      if other = place then some entry else tree.entry? other := by
  cases other with
  | nil => rw [if_neg below.symm, entry?, entry?]
  | cons part rest => exact lookup_setEntry ..

theorem entry?_erase (below : place ≠ []) (other : Place) :
    FileTree.entry? (tree.erase place) other =
      if other = place then none else tree.entry? other := by
  cases other with
  | nil => rw [if_neg below.symm, entry?, entry?]
  | cons part rest => exact lookup_erased ..

/-- Directories have been put at some places where nothing was. -/
structure AddsDirectories (places : List Place) (before after : FileTree) : Prop where
  limits : after.limits = before.limits
  entries (place : Place) : after.entry? place = before.entry? place ∨
    place ∈ places ∧ before.entry? place = none ∧ after.entry? place = some .directory

namespace AddsDirectories

theorem refl (places : List Place) (tree : FileTree) : AddsDirectories places tree tree where
  limits := rfl
  entries _ := .inl rfl

theorem trans (first : AddsDirectories places before between)
    (second : AddsDirectories places between after) : AddsDirectories places before after where
  limits := second.limits.trans first.limits
  entries place := by
    rcases second.entries place with same | ⟨allowed, free, put⟩
    · rw [same]
      exact first.entries place
    · rcases first.entries place with same | ⟨_, _, taken⟩
      · exact .inr ⟨allowed, same ▸ free, put⟩
      · rw [taken] at free
        cases free

theorem mono {more : List Place} (adds : AddsDirectories places before after)
    (included : places ⊆ more) : AddsDirectories more before after where
  limits := adds.limits
  entries place := (adds.entries place).imp_right fun ⟨allowed, put⟩ => ⟨included allowed, put⟩

end AddsDirectories

def placesFrom (start : Place) : List String → List Place
  | [] => []
  | part :: rest => Path.follow start part :: placesFrom (Path.follow start part) rest

theorem placesFrom_append (start : Place) (front back : List String) :
    placesFrom start (front ++ back) =
      placesFrom start front ++ placesFrom (front.foldl Path.follow start) back := by
  induction front generalizing start with
  | nil => rfl
  | cons part rest induction => simp [placesFrom, induction]

theorem placesAlong_eq (path : Path) (workingDirectory : Place) :
    path.placesAlong workingDirectory = placesFrom (path.start workingDirectory) path.parts := by
  have walk (parts : List String) (start : Place) (passed : List Place) :
      (parts.foldl (fun passed part =>
        (Path.follow passed.1 part, passed.2 ++ [Path.follow passed.1 part])) (start, passed)).2 =
        passed ++ placesFrom start parts := by
    induction parts generalizing start passed with
    | nil => simp [placesFrom]
    | cons part rest induction => simp [placesFrom, induction]
  exact walk ..

theorem enter_eq_follow {part : String} {next : Place}
    (entered : tree.enter place part = .ok next) : next = Path.follow place part := by
  unfold enter at entered
  unfold Path.follow
  split at entered
  · rw [if_pos ‹_›, Except.ok.inj entered]
  · rw [if_neg ‹_›]
    split at entered
    · cases entered
    · split at entered <;> cases entered
      rfl

theorem directoryAt_eq_foldl {start : Place} {parts : List String}
    (found : tree.directoryAt start parts = .ok place) : place = parts.foldl Path.follow start := by
  induction parts generalizing start with
  | nil => exact (Except.ok.inj found).symm
  | cons part rest induction =>
      rw [directoryAt, List.foldlM_cons] at found
      cases entered : tree.enter start part with
      | error fault =>
          rw [entered] at found
          cases found
      | ok next =>
          rw [entered] at found
          rw [List.foldl_cons, ← enter_eq_follow entered]
          exact induction found

theorem isDirectory_of_directoryAt {start : Place} {parts : List String}
    (found : tree.directoryAt start parts = .ok place) (down : aboveName ∉ parts) :
    ∀ passed ∈ placesFrom start parts, tree.entry? passed = some .directory := by
  induction parts generalizing start with
  | nil => exact List.forall_mem_nil _
  | cons part rest induction =>
      rw [directoryAt, List.foldlM_cons] at found
      rw [List.mem_cons, not_or] at down
      cases entered : tree.enter start part with
      | error fault =>
          rw [entered] at found
          cases found
      | ok next =>
          rw [entered] at found
          rw [placesFrom, ← enter_eq_follow entered]
          refine List.forall_mem_cons.mpr ⟨?_, induction found down.2⟩
          unfold enter at entered
          rw [if_neg (Ne.symm down.1)] at entered
          split at entered
          · cases entered
          · split at entered <;> cases entered
            assumption

theorem createDirectory_ok {changed : FileTree} {start : Place} {above : List String}
    {name : String} (created : tree.createDirectory start above name = .ok changed) :
    ∃ directory, tree.directoryAt start above = .ok directory ∧ name ≠ aboveName ∧
      tree.entry? (directory ++ [name]) = none ∧
        changed = tree.set (directory ++ [name]) .directory := by
  unfold createDirectory at created
  cases found : tree.directoryAt start above with
  | error fault => simp [found, bind, Except.bind] at created
  | ok directory =>
      simp only [found, bind, Except.bind, pure, Except.pure, throw, throwThe,
        MonadExceptOf.throw] at created
      split at created
      · cases created
      split at created
      · cases created
      rename_i free
      simp only [Bool.or_eq_true, decide_eq_true_eq, not_or, Option.isSome_iff_ne_none, ne_eq,
        not_not] at free
      cases created
      exact ⟨directory, rfl, free.1, free.2, rfl⟩

theorem addsDirectories_createDirectory {changed : FileTree} {start : Place} {above : List String}
    {name : String} (created : tree.createDirectory start above name = .ok changed) :
    AddsDirectories [(above ++ [name]).foldl Path.follow start] tree changed := by
  obtain ⟨directory, found, down, free, rfl⟩ := createDirectory_ok created
  have reached : (above ++ [name]).foldl Path.follow start = directory ++ [name] := by
    rw [List.foldl_append, ← directoryAt_eq_foldl found]
    exact if_neg down
  rw [reached]
  refine ⟨rfl, fun other => ?_⟩
  rw [entry?_set (by simp)]
  by_cases same : other = directory ++ [name]
  · exact .inr ⟨List.mem_singleton.mpr same, same ▸ free, if_pos same⟩
  · exact .inl (if_neg same)

end FileTree

namespace Change

open FileTree

variable {α β : Type}

@[simp] theorem apply_pure (result : α) (tree : FileTree) :
    (pure result : Change α).apply tree = (.ok result, tree) :=
  rfl

@[simp] theorem apply_throw (error : FileError) (tree : FileTree) :
    (throw error : Change α).apply tree = (.error error, tree) :=
  rfl

@[simp] theorem apply_get (tree : FileTree) :
    (get : Change FileTree).apply tree = (.ok tree, tree) :=
  rfl

@[simp] theorem apply_set (changed tree : FileTree) :
    (set changed : Change PUnit).apply tree = (.ok ⟨⟩, changed) :=
  rfl

@[simp] theorem apply_modify (change : FileTree → FileTree) (tree : FileTree) :
    (modify change : Change PUnit).apply tree = (.ok ⟨⟩, change tree) :=
  rfl

theorem apply_bind (first : Change α) (next : α → Change β) (tree : FileTree) :
    (first >>= next).apply tree =
      match first.apply tree with
      | (.ok result, changed) => (next result).apply changed
      | (.error error, changed) => (.error error, changed) := by
  change (match first.apply tree with
    | (result, changed) => StateT.run (ExceptT.bindCont next result) changed) = _
  rcases first.apply tree with ⟨_ | _, _⟩ <;> rfl

theorem apply_tryCatch (change : Change α) (handle : FileError → Change α) (tree : FileTree) :
    (tryCatch change handle).apply tree =
      match change.apply tree with
      | (.ok result, changed) => (.ok result, changed)
      | (.error error, changed) => (handle error).apply changed := by
  unfold apply ExceptT.run StateT.run
  simp only [tryCatch, tryCatchThe, MonadExceptOf.tryCatch, ExceptT.tryCatch, ExceptT.mk, bind,
    StateT.bind]
  rcases change tree with ⟨_ | _, _⟩ <;> rfl

/-! ### Directories on the way -/

theorem addsDirectories_ensureDirectory (isAbsolute : Bool) (start : Place) (above : List String)
    (name : String) (tree : FileTree) :
    AddsDirectories [(above ++ [name]).foldl Path.follow start] tree
      ((ensureDirectory isAbsolute start above name).apply tree).2 := by
  rw [ensureDirectory, apply_bind, apply_get]
  cases created : tree.createDirectory start above name with
  | ok changed =>
      simp only [created]
      exact addsDirectories_createDirectory created
  | error fault =>
      simp only [created]
      split <;> exact .refl _ tree

theorem addsDirectories_createDirectories (isAbsolute : Bool) (start : Place)
    (reversed : List String) (tree : FileTree) :
    AddsDirectories (placesFrom start reversed.reverse) tree
      ((createDirectories isAbsolute start reversed).apply tree).2 := by
  induction reversed generalizing tree with
  | nil => exact .refl _ tree
  | cons name reversedAbove induction =>
      have here (tree : FileTree) :
          AddsDirectories (placesFrom start (name :: reversedAbove).reverse) tree
            ((ensureDirectory isAbsolute start reversedAbove.reverse name).apply tree).2 := by
        refine (addsDirectories_ensureDirectory ..).mono ?_
        rw [List.reverse_cons, placesFrom_append]
        simp [placesFrom]
      rw [createDirectories, apply_bind, apply_get]
      dsimp only
      split
      · rw [apply_bind]
        have above : AddsDirectories (placesFrom start (name :: reversedAbove).reverse) tree
            ((createDirectories isAbsolute start reversedAbove).apply tree).2 := by
          refine (induction tree).mono ?_
          rw [List.reverse_cons, placesFrom_append]
          exact List.subset_append_left ..
        split
        · next ran =>
            rw [ran] at above
            exact above.trans (here _)
        · next ran =>
            rw [ran] at above
            exact above
      · exact here tree

/-- A file has been put at a place that was no directory, and nothing else has changed. -/
structure PutsFile (target : Place) (content : List UInt8) (before after : FileTree) : Prop where
  unused : before.isDirectory target = false
  limits : after.limits = before.limits
  entries (place : Place) : after.entry? place =
    if place = target then some (.file content) else before.entry? place

theorem ne_nil_of_isDirectory_eq_false {tree : FileTree} {place : Place}
    (other : tree.isDirectory place = false) : place ≠ [] := by
  rintro rfl
  cases other

theorem apply_refuseUnusable (path : Path) (names : List String) (tree : FileTree) :
    (∃ error, nameFault? (names.flatMap fun name => Text.codePoints name.toList) ≠ none ∧
        (refuseUnusable path names).apply tree = (.error error, tree)) ∨
      (refuseUnusable path names).apply tree = (.ok (), tree) := by
  unfold refuseUnusable
  split
  · next found => exact .inl ⟨_, by rw [found]; exact nofun, rfl⟩
  · exact .inr rfl

theorem apply_refuseLong (path : Path) (tree : FileTree) :
    (∃ error, tree.admitsPath path = false ∧
        (refuseLong path).apply tree = (.error error, tree)) ∨
      (refuseLong path).apply tree = (.ok (), tree) := by
  rw [refuseLong, apply_bind, apply_get]
  dsimp only
  split
  · next long => exact .inl ⟨_, Bool.not_eq_true' _ ▸ long, rfl⟩
  · exact .inr rfl

theorem apply_openDirectory (workingDirectory : Place) (path : Path) (tree : FileTree) :
    (∃ error, (∃ fault, tree.directoryAt (path.start workingDirectory) path.parts.dropLast =
          .error fault) ∧
        (openDirectory workingDirectory path).apply tree = (.error error, tree)) ∨
      ∃ directory, tree.directoryAt (path.start workingDirectory) path.parts.dropLast =
          .ok directory ∧
        (openDirectory workingDirectory path).apply tree = (.ok directory, tree) := by
  rw [openDirectory, apply_bind, apply_get]
  dsimp only
  cases found : tree.directoryAt (path.start workingDirectory) path.parts.dropLast with
  | ok directory => exact .inr ⟨directory, rfl, rfl⟩
  | error fault => exact .inl ⟨_, ⟨fault, rfl⟩, rfl⟩

theorem apply_putFile (path : Path) (name : String) (target : Place) (content : Option (List UInt8))
    (tree : FileTree) :
    (∃ error, (putFile path name target content).apply tree = (.error error, tree)) ∨
      tree.isDirectory target = false ∧ (putFile path name target content).apply tree =
        match content with
        | some content => (.ok (), (tree.set target (.file [])).set target (.file content))
        | none => (.error { fault := .unencodable, path }, tree.set target (.file [])) := by
  unfold putFile
  rw [apply_bind]
  rcases apply_refuseLong { path with parts := path.parts.dropLast ++ [name] } tree with
    ⟨error, -, refused⟩ | fits
  · rw [refused]
    exact .inl ⟨error, rfl⟩
  · rw [fits]
    cases admitted : tree.admitsName name with
    | false => exact .inl ⟨{ fault := .nameTooLong, path }, by simp [apply_bind, admitted]⟩
    | true =>
        cases occupied : tree.isDirectory target with
        | true =>
            exact .inl ⟨{ fault := .isDirectory, path }, by simp [apply_bind, admitted, occupied]⟩
        | false =>
            refine .inr ⟨rfl, ?_⟩
            cases content <;> simp [apply_bind, admitted, occupied]

/-- The name under which a file is written first belongs to no other file. -/
theorem entry?_unusedName (tree : FileTree) (directory : Place) (name : String) :
    tree.entry? (directory ++ [unusedName tree name]) = none := by
  -- The name is longer than each name in the tree, as all these are counted for its length.
  have longer {held : Place × Entry} {part : String} (listed : held ∈ tree.entries)
      (named : part ∈ held.1) : part.toList.length < (unusedName tree name).toList.length := by
    have counted : (part.toList.map fun _ => '0').Sublist
        ((tree.entries.flatMap (·.1)).flatMap fun other => other.toList.map fun _ => '0') :=
      List.sublist_flatten_of_mem
        (List.mem_map_of_mem (List.mem_flatMap.mpr ⟨held, listed, named⟩))
    have size := counted.length_le
    rw [List.length_map] at size
    simp only [unusedName, temporaryName, String.toList_append, String.toList_ofList,
      List.length_append]
    have dot : ".".toList.length = 1 := by decide
    omega
  have unlisted : tree.entries.lookup (directory ++ [unusedName tree name]) = none := by
    rw [List.lookup_eq_none_iff]
    intro held listed
    rw [bne_iff_ne]
    intro same
    have named : unusedName tree name ∈ held.1 := by
      rw [← same]
      exact List.mem_append_right _ (List.mem_singleton_self _)
    exact absurd (longer listed named) (Nat.lt_irrefl _)
  cases directory with
  | nil => exact unlisted
  | cons first rest => exact unlisted

theorem apply_moveFile (path : Path) (source target : Place) (tree : FileTree) :
    (∃ error, (moveFile path source target).apply tree = (.error error, tree)) ∨
      ∃ entry, tree.isDirectory target = false ∧ tree.entry? source = some entry ∧
        (moveFile path source target).apply tree =
          (.ok (), (tree.erase source).set target entry) := by
  unfold moveFile
  cases occupied : tree.isDirectory target with
  | true => exact .inl ⟨{ fault := .isDirectory, path }, by simp [apply_bind, occupied]⟩
  | false =>
      cases held : tree.entry? source with
      | none => exact .inl ⟨{ fault := .missing, path }, by simp [apply_bind, occupied, held]⟩
      | some entry => exact .inr ⟨entry, rfl, rfl, by simp [apply_bind, occupied, held]⟩

structure ChangesOnly (changing : Place) (before after : FileTree) : Prop where
  limits : after.limits = before.limits
  entries (place : Place) (other : place ≠ changing) : after.entry? place = before.entry? place

theorem ChangesOnly.erase {temporary : Place} {before after : FileTree}
    (changes : ChangesOnly temporary before after) (below : temporary ≠ [])
    (free : before.entry? temporary = none) :
    AddsDirectories [] before (after.erase temporary) where
  limits := changes.limits
  entries place := by
    rw [entry?_erase below]
    by_cases same : place = temporary
    · exact .inl (by rw [if_pos same, same, free])
    · exact .inl (by rw [if_neg same, changes.entries place same])

theorem changesOnly_set {place : Place} (below : place ≠ []) (entry : Entry) (tree : FileTree) :
    ChangesOnly place tree (tree.set place entry) where
  limits := rfl
  entries other different := by rw [entry?_set below, if_neg different]

theorem ChangesOnly.trans {place : Place} {before between after : FileTree}
    (first : ChangesOnly place before between) (second : ChangesOnly place between after) :
    ChangesOnly place before after where
  limits := second.limits.trans first.limits
  entries other different := (second.entries other different).trans (first.entries other different)

theorem putsFile_moved {temporary target : Place} {bytes : List UInt8} {before between : FileTree}
    (changes : ChangesOnly temporary before between) (below : temporary ≠ [])
    (free : before.entry? temporary = none) (unused : between.isDirectory target = false) :
    PutsFile target bytes before ((between.erase temporary).set target (.file bytes)) where
  unused := by
    by_cases same : target = temporary
    · rw [isDirectory, same, free]
      rfl
    · rw [isDirectory, ← changes.entries target same]
      exact unused
  limits := changes.limits
  entries place := by
    rw [entry?_set (ne_nil_of_isDirectory_eq_false unused), entry?_erase below]
    split
    · rfl
    · split
      · next same => rw [same, free]
      · next different => exact changes.entries place different

theorem apply_putFileAtomically_eq (path : Path) (directory target : Place)
    (content : Option (List UInt8)) (tree : FileTree) :
    ∃ temporary, temporary ≠ [] ∧ tree.entry? temporary = none ∧
      (putFileAtomically path directory target content).apply tree =
        (tryCatch (do
            putFile path (temporaryName path.name "00000000") temporary content
            moveFile path temporary target) (fun error => do
          modify (·.erase temporary)
          throw error) : Change Unit).apply tree := by
  refine ⟨directory ++ [unusedName tree path.name], by simp, entry?_unusedName .., ?_⟩
  rw [putFileAtomically, apply_bind, apply_get]

theorem apply_putFileAtomically (path : Path) (directory target : Place)
    (content : Option (List UInt8)) (tree : FileTree) :
    (∃ error after, (putFileAtomically path directory target content).apply tree =
        (.error error, after) ∧ AddsDirectories [] tree after) ∨
      ∃ bytes after, content = some bytes ∧
        (putFileAtomically path directory target content).apply tree = (.ok (), after) ∧
          PutsFile target bytes tree after := by
  obtain ⟨temporary, below, free, same⟩ :=
    apply_putFileAtomically_eq path directory target content tree
  rw [same, apply_tryCatch, apply_bind]
  -- Whatever goes wrong, only the temporary file is there to be erased.
  have cleaned {changed : FileTree} (error : FileError)
      (changes : ChangesOnly temporary tree changed) :
      ∃ cause after, (do
        modify (·.erase temporary)
        throw error : Change Unit).apply changed = (.error cause, after) ∧
          AddsDirectories [] tree after :=
    ⟨error, _, by simp [apply_bind], changes.erase below free⟩
  rcases apply_putFile path (temporaryName path.name "00000000") temporary content tree with
    ⟨error, refused⟩ | ⟨-, put⟩
  · rw [refused]
    exact .inl (cleaned error ⟨rfl, fun _ _ => rfl⟩)
  · cases content with
    | none =>
        rw [put]
        exact .inl (cleaned _ (changesOnly_set below _ tree))
    | some bytes =>
        rw [put]
        dsimp only
        have changes := (changesOnly_set below (.file []) tree).trans
          (changesOnly_set below (.file bytes) _)
        rcases apply_moveFile path temporary target _ with
          ⟨error, refused⟩ | ⟨entry, unused, held, moved⟩
        · rw [refused]
          exact .inl (cleaned error changes)
        · rw [moved]
          rw [entry?_set below, if_pos rfl, Option.some.injEq] at held
          subst held
          exact .inr ⟨bytes, _, rfl, rfl, putsFile_moved changes below free unused⟩

/-! ### Writing a file -/

theorem targetIn_eq_place {path : Path} {workingDirectory directory : Place}
    (reached : directory = path.parts.dropLast.foldl Path.follow (path.start workingDirectory)) :
    targetIn directory path = path.place workingDirectory := by
  rw [targetIn, Path.place]
  cases last : path.parts.getLast? with
  | none =>
      rw [List.getLast?_eq_none_iff] at last
      rw [reached, last]
      rfl
  | some name =>
      have split : path.parts = path.parts.dropLast ++ [name] := by
        obtain ⟨front, parts⟩ := List.getLast?_eq_some_iff.mp last
        rw [parts, List.dropLast_concat]
      rw [split, List.foldl_append, ← reached]
      rfl

/--
How writing a file ends, and the tree that it leaves. Directories may be new on the way to the file,
even if it is not written. Only a file that is written without a temporary one can be left empty.
-/
inductive Writing (isAtomic : Bool) (workingDirectory : Place) (path : Path)
    (content : Option (List UInt8)) (before : FileTree) :
    Except FileError Unit → FileTree → Prop
  | refused {error : FileError} {after : FileTree}
      (adds : AddsDirectories (path.parent.placesAlong workingDirectory) before after) :
      Writing isAtomic workingDirectory path content before (.error error) after
  | emptied {error : FileError} {directory : Place} {between after : FileTree}
      (direct : isAtomic = false) (unfit : content = none)
      (adds : AddsDirectories (path.parent.placesAlong workingDirectory) before between)
      (reached : between.directoryAt (path.start workingDirectory) path.parts.dropLast =
        .ok directory)
      (puts : PutsFile (path.place workingDirectory) [] between after) :
      Writing isAtomic workingDirectory path content before (.error error) after
  | written {bytes : List UInt8} {directory : Place} {between after : FileTree}
      (fits : content = some bytes)
      (adds : AddsDirectories (path.parent.placesAlong workingDirectory) before between)
      (reached : between.directoryAt (path.start workingDirectory) path.parts.dropLast =
        .ok directory)
      (puts : PutsFile (path.place workingDirectory) bytes between after) :
      Writing isAtomic workingDirectory path content before (.ok ()) after

private theorem putsFile_filled {target : Place} {tree : FileTree}
    (unused : tree.isDirectory target = false) (bytes : List UInt8) :
    PutsFile target bytes tree ((tree.set target (.file [])).set target (.file bytes)) where
  unused := unused
  limits := rfl
  entries place := by
    rw [entry?_set (ne_nil_of_isDirectory_eq_false unused),
      entry?_set (ne_nil_of_isDirectory_eq_false unused)]
    split <;> rfl

private theorem putsFile_set {target : Place} {tree : FileTree}
    (unused : tree.isDirectory target = false) (bytes : List UInt8) :
    PutsFile target bytes tree (tree.set target (.file bytes)) where
  unused := unused
  limits := rfl
  entries := entry?_set (ne_nil_of_isDirectory_eq_false unused) _

section

variable (isAtomic : Bool) (workingDirectory : Place) (path : Path)
  (content : Option (List UInt8))

private theorem writing_put {before tree : FileTree} {directory : Place}
    (adds : AddsDirectories (path.parent.placesAlong workingDirectory) before tree)
    (reached : tree.directoryAt (path.start workingDirectory) path.parts.dropLast =
      .ok directory) :
    let outcome := (if isAtomic then
        putFileAtomically path directory (path.place workingDirectory) content
      else putFile path path.name (path.place workingDirectory) content : Change Unit).apply tree
    Writing isAtomic workingDirectory path content before outcome.1 outcome.2 := by
  cases isAtomic with
  | true =>
      dsimp only
      rw [if_pos rfl]
      rcases apply_putFileAtomically path directory (path.place workingDirectory) content tree with
        ⟨error, after, failed, clean⟩ | ⟨bytes, after, fits, done, puts⟩
      · rw [failed]
        exact .refused (adds.trans (clean.mono (List.nil_subset _)))
      · rw [done]
        exact .written fits adds reached puts
  | false =>
      dsimp only
      rw [if_neg Bool.false_ne_true]
      rcases apply_putFile path path.name (path.place workingDirectory) content tree with
        ⟨error, failed⟩ | ⟨unused, done⟩
      · rw [failed]
        exact .refused adds
      · rw [done]
        cases content with
        | none => exact .emptied rfl rfl adds reached (putsFile_set unused [])
        | some bytes => exact .written rfl adds reached (putsFile_filled unused bytes)

/--
How far a write comes before its file is put anywhere: to the directory of the file, or to an error.
It does not matter how the file is written and what is to be put in.
-/
inductive Approach (before : FileTree) : Except FileError Place → FileTree → Prop
  | refused {error : FileError}
      (unfit : nameFault? (path.parts.dropLast.flatMap fun name => Text.codePoints name.toList) ≠
        none ∨ before.admitsPath path.parent = false) :
      Approach before (.error error) before
  | stopped {error : FileError} {after : FileTree}
      (ran : (createDirectories path.isAbsolute (path.start workingDirectory)
        path.parts.dropLast.reverse).apply before = (.error error, after)) :
      Approach before (.error error) after
  | blocked {error : FileError} {after : FileTree}
      (ran : (createDirectories path.isAbsolute (path.start workingDirectory)
        path.parts.dropLast.reverse).apply before = (.ok (), after))
      (unfit : nameFault? (path.parts.flatMap fun name => Text.codePoints name.toList) ≠ none ∨
        ∃ fault, after.directoryAt (path.start workingDirectory) path.parts.dropLast =
          .error fault) :
      Approach before (.error error) after
  | reached {directory : Place} {after : FileTree}
      (ran : (createDirectories path.isAbsolute (path.start workingDirectory)
        path.parts.dropLast.reverse).apply before = (.ok (), after))
      (found : after.directoryAt (path.start workingDirectory) path.parts.dropLast =
        .ok directory) :
      Approach before (.ok directory) after

theorem Approach.adds {before after : FileTree} {outcome : Except FileError Place}
    (approach : Approach workingDirectory path before outcome after) :
    AddsDirectories (path.parent.placesAlong workingDirectory) before after := by
  have adds := addsDirectories_createDirectories path.isAbsolute (path.start workingDirectory)
    path.parts.dropLast.reverse before
  rw [List.reverse_reverse] at adds
  change AddsDirectories (placesFrom (path.parent.start workingDirectory) path.parent.parts) _ _
    at adds
  rw [← placesAlong_eq] at adds
  cases approach with
  | refused => exact .refl _ _
  | stopped ran | blocked ran | reached ran =>
      rw [ran] at adds
      exact adds

theorem exists_approach (tree : FileTree) :
    ∃ outcome after, Approach workingDirectory path tree outcome after ∧
      ∀ (isAtomic : Bool) (content : Option (List UInt8)),
        (writeFile isAtomic workingDirectory path content).apply tree =
          match outcome with
          | .error error => (.error error, after)
          | .ok directory =>
              (if isAtomic then
                  putFileAtomically path directory (path.place workingDirectory) content
                else putFile path path.name (path.place workingDirectory) content :
                  Change Unit).apply after := by
  unfold writeFile
  simp only [apply_bind]
  rcases apply_refuseUnusable path path.parts.dropLast tree with
    ⟨error, unfit, refused⟩ | usable
  · exact ⟨.error error, tree, .refused (.inl unfit), fun _ _ => by rw [refused]⟩
  rcases apply_refuseLong path.parent tree with ⟨error, long, refused⟩ | fits
  · exact ⟨.error error, tree, .refused (.inr long), fun _ _ => by rw [usable]; simp [refused]⟩
  rw [usable]
  dsimp only
  rw [fits]
  dsimp only
  cases ran : (createDirectories path.isAbsolute (path.start workingDirectory)
    path.parts.dropLast.reverse).apply tree with
  | mk result changed =>
      cases result with
      | error error => exact ⟨.error error, changed, .stopped ran, fun _ _ => rfl⟩
      | ok =>
          dsimp only
          rcases apply_refuseUnusable path path.parts changed with
            ⟨error, unfit, refused⟩ | usable
          · exact ⟨.error error, changed, .blocked ran (.inl unfit), fun _ _ => by rw [refused]⟩
          rw [usable]
          dsimp only
          rcases apply_openDirectory workingDirectory path changed with
            ⟨error, missing, refused⟩ | ⟨directory, found, opened⟩
          · exact ⟨.error error, changed, .blocked ran (.inr missing), fun _ _ => by rw [refused]⟩
          refine ⟨.ok directory, changed, .reached ran found, fun _ _ => ?_⟩
          rw [opened]
          dsimp only
          rw [targetIn_eq_place (directoryAt_eq_foldl found)]

theorem writing_writeFile (tree : FileTree) :
    let outcome := (writeFile isAtomic workingDirectory path content).apply tree
    Writing isAtomic workingDirectory path content tree outcome.1 outcome.2 := by
  obtain ⟨outcome, after, approach, ran⟩ := exists_approach workingDirectory path tree
  have adds := approach.adds
  dsimp only
  rw [ran isAtomic content]
  cases approach with
  | refused | stopped | blocked => exact .refused adds
  | reached _ found => exact writing_put isAtomic workingDirectory path content adds found

end

end Change

end FederationSplit.Files
