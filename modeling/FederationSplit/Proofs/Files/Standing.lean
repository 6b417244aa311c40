import FederationSplit.Proofs.Files.Changing

namespace FederationSplit.Files

namespace FileTree

/-- Everything in a tree lies in a directory, and so does a walk that starts at some place. -/
structure Stands (start : Place) (tree : FileTree) : Prop where
  closed (place : Place) (below : place ≠ []) (taken : tree.entry? place ≠ none) :
    tree.entry? place.dropLast = some .directory
  start : tree.entry? start = some .directory

variable {tree : FileTree} {start place : Place}

theorem Stands.set (stands : Stands start tree) {directory : Place}
    (inside : tree.entry? directory = some .directory) (name : String) :
    Stands start (tree.set (directory ++ [name]) .directory) where
  closed place below taken := by
    rw [entry?_set (by simp)] at taken ⊢
    split
    · rfl
    · by_cases same : place = directory ++ [name]
      · rw [same, List.dropLast_concat]
        exact inside
      · rw [if_neg same] at taken
        exact stands.closed place below taken
  start := by
    rw [entry?_set (by simp)]
    split
    · rfl
    · exact stands.start

theorem Stands.enter (stands : Stands start tree) {part : String} {next : Place}
    (here : tree.entry? place = some .directory) (entered : tree.enter place part = .ok next) :
    tree.entry? next = some .directory := by
  unfold FileTree.enter at entered
  split at entered
  · cases entered
    by_cases root : place = []
    · rw [root]
      rfl
    · exact stands.closed place root (by rw [here]; exact nofun)
  · split at entered
    · cases entered
    · split at entered <;> cases entered
      assumption

theorem Stands.directoryAt (stands : Stands start tree) {parts : List String} {directory : Place}
    (found : tree.directoryAt start parts = .ok directory) :
    tree.entry? directory = some .directory ∧
      ∀ passed ∈ placesFrom start parts, tree.entry? passed = some .directory := by
  have walk (parts : List String) (here : Place) (isHere : tree.entry? here = some .directory)
      (found : tree.directoryAt here parts = .ok directory) :
      tree.entry? directory = some .directory ∧
        ∀ passed ∈ placesFrom here parts, tree.entry? passed = some .directory := by
    induction parts generalizing here with
    | nil =>
        cases found
        exact ⟨isHere, List.forall_mem_nil _⟩
    | cons part rest induction =>
        rw [FileTree.directoryAt, List.foldlM_cons] at found
        cases entered : tree.enter here part with
        | error fault =>
            rw [entered] at found
            cases found
        | ok next =>
            rw [entered] at found
            have isNext := stands.enter isHere entered
            obtain ⟨isLast, passed⟩ := induction next isNext found
            rw [placesFrom, ← enter_eq_follow entered]
            exact ⟨isLast, List.forall_mem_cons.mpr ⟨isNext, passed⟩⟩
  exact walk parts start stands.start found

theorem createDirectory_eq (unlimited : tree.limits = .none) {name : String}
    (down : name ≠ aboveName) (above : List String) :
    tree.createDirectory start above name =
      match tree.directoryAt start above with
      | .error fault => .error fault
      | .ok directory =>
          if (tree.entry? (directory ++ [name])).isSome then .error .alreadyExists
          else .ok (tree.set (directory ++ [name]) .directory) := by
  have admitted : tree.admitsName name = true := by
    rw [admitsName, unlimited]
    rfl
  unfold createDirectory
  cases tree.directoryAt start above with
  | error fault => rfl
  | ok directory => simp [bind, Except.bind, pure, Except.pure, admitted, down, throw, throwThe,
      MonadExceptOf.throw]

theorem Stands.createDirectory (stands : Stands start tree) {changed : FileTree}
    {above : List String} {name : String}
    (created : tree.createDirectory start above name = .ok changed) : Stands start changed := by
  obtain ⟨directory, found, -, -, rfl⟩ := createDirectory_ok created
  exact stands.set (stands.directoryAt found).1 name

end FileTree

namespace Change

open FileTree

variable {start : Place} {tree : FileTree}

theorem stands_ensureDirectory (stands : Stands start tree) (isAbsolute : Bool)
    (above : List String) (name : String) :
    Stands start ((ensureDirectory isAbsolute start above name).apply tree).2 := by
  rw [ensureDirectory, apply_bind, apply_get]
  cases created : tree.createDirectory start above name with
  | ok changed =>
      simp only [created]
      exact stands.createDirectory created
  | error fault =>
      simp only [created]
      split <;> exact stands

theorem stands_createDirectories (stands : Stands start tree) (isAbsolute : Bool)
    (reversed : List String) :
    Stands start ((createDirectories isAbsolute start reversed).apply tree).2 := by
  induction reversed generalizing tree with
  | nil => exact stands
  | cons name reversedAbove induction =>
      rw [createDirectories, apply_bind, apply_get]
      dsimp only
      split
      · rw [apply_bind]
        have above := induction stands
        split
        · next ran =>
            rw [ran] at above
            exact stands_ensureDirectory above ..
        · next ran =>
            rw [ran] at above
            exact above
      · exact stands_ensureDirectory stands ..

theorem directoryAt_concat {directory : Place} {above : List String}
    (found : tree.directoryAt start above = .ok directory) (name : String) :
    tree.directoryAt start (above ++ [name]) = tree.enter directory name := by
  unfold FileTree.directoryAt at found ⊢
  rw [List.foldlM_append, found]
  change tree.enter directory name >>= pure = _
  exact bind_pure _

theorem directoryAt_of_adds {places : List Place} {after : FileTree}
    (adds : AddsDirectories places tree after) {parts : List String} {directory : Place}
    (found : tree.directoryAt start parts = .ok directory) :
    after.directoryAt start parts = .ok directory := by
  induction parts generalizing start with
  | nil => exact found
  | cons part rest induction =>
      rw [FileTree.directoryAt, List.foldlM_cons] at found ⊢
      cases entered : tree.enter start part with
      | error fault =>
          rw [entered] at found
          cases found
      | ok next =>
          rw [entered] at found
          have again : after.enter start part = .ok next := by
            unfold enter at entered ⊢
            rw [show after.admitsName part = tree.admitsName part by
              rw [admitsName, admitsName, adds.limits]]
            split at entered
            · rwa [if_pos ‹_›]
            · rw [if_neg ‹_›]
              split at entered
              · cases entered
              · rw [if_neg ‹_›]
                split at entered <;> cases entered
                next isDirectory =>
                  rcases adds.entries (start ++ [part]) with same | ⟨-, -, put⟩
                  · rw [same, isDirectory]
                  · rw [put]
          rw [again]
          exact induction found

/-- Directories lead to the last of some names, and either none is new or nothing lies in it. -/
def LeadsAfresh (start : Place) (names : List String) (before after : FileTree) : Prop :=
  ∃ directory, after.directoryAt start names = .ok directory ∧
    (after = before ∨ ∀ name, after.entry? (directory ++ [name]) = none)

private theorem leadsAfresh_of_created (unlimited : tree.limits = .none)
    (stands : Stands start tree) {before changed : FileTree} {above : List String} {name : String}
    (created : tree.createDirectory start above name = .ok changed) :
    LeadsAfresh start (above ++ [name]) before changed := by
  have adds := addsDirectories_createDirectory created
  obtain ⟨directory, found, down, free, rfl⟩ := createDirectory_ok created
  refine ⟨directory ++ [name], ?_, .inr fun inner => ?_⟩
  · have admitted : (tree.set (directory ++ [name]) .directory).admitsName name = true := by
      rw [admitsName, adds.limits, unlimited]
      rfl
    rw [directoryAt_concat (directoryAt_of_adds adds found), enter, if_neg down, admitted,
      Bool.not_true, if_neg Bool.false_ne_true, entry?_set (by simp), if_pos rfl]
  · rw [entry?_set (by simp), if_neg fun same => by simpa using congrArg List.length same]
    by_contra taken
    have above := stands.closed _ (by simp) taken
    rw [List.dropLast_concat, free] at above
    cases above

theorem apply_ensureDirectory (isAbsolute : Bool) (above : List String) (name : String) :
    (ensureDirectory isAbsolute start above name).apply tree =
      match tree.createDirectory start above name with
      | .ok changed => (.ok (), changed)
      | .error fault =>
          match tree.directoryAt start (above ++ [name]) with
          | .ok _ => (.ok (), tree)
          | .error _ =>
              (.error { fault, path := { isAbsolute, parts := above ++ [name] } }, tree) := by
  rw [ensureDirectory, apply_bind, apply_get]
  cases created : tree.createDirectory start above name with
  | ok changed => simp [created]
  | error fault =>
      simp only [created]
      cases tree.directoryAt start (above ++ [name]) <;> rfl

/-- On a way that only leads down, all missing directories are created or none is. -/
theorem apply_createDirectories_of_down (unlimited : tree.limits = .none)
    (stands : Stands start tree) (isAbsolute : Bool) {reversed : List String}
    (down : aboveName ∉ reversed) :
    (∃ error, (createDirectories isAbsolute start reversed).apply tree = (.error error, tree)) ∨
      ∃ changed, (createDirectories isAbsolute start reversed).apply tree = (.ok (), changed) ∧
        LeadsAfresh start reversed.reverse tree changed := by
  induction reversed with
  | nil => exact .inr ⟨tree, rfl, start, rfl, .inl rfl⟩
  | cons name reversedAbove induction =>
      rw [List.mem_cons, not_or] at down
      rw [createDirectories, apply_bind, apply_get, List.reverse_cons]
      dsimp only
      split
      · next missing =>
          -- The directory above is missing, so once it is created nothing lies in it.
          rw [apply_bind]
          rcases induction down.2 with ⟨error, failed⟩ | ⟨between, done, directory, found, fresh⟩
          · rw [failed]
            exact .inl ⟨error, rfl⟩
          · have adds := addsDirectories_createDirectories isAbsolute start reversedAbove tree
            have standing := stands_createDirectories stands isAbsolute reversedAbove
            rw [done] at adds standing ⊢
            have free : between.entry? (directory ++ [name]) = none := by
              rcases fresh with rfl | none
              · rw [createDirectory_eq unlimited (Ne.symm down.1), found] at missing
                dsimp only at missing
                split at missing <;> cases missing
              · exact none name
            have created : between.createDirectory start reversedAbove.reverse name =
                .ok (between.set (directory ++ [name]) .directory) := by
              rw [createDirectory_eq (adds.limits.trans unlimited) (Ne.symm down.1), found]
              dsimp only
              rw [free]
              rfl
            dsimp only
            rw [apply_ensureDirectory, created]
            exact .inr ⟨_, rfl, leadsAfresh_of_created (adds.limits.trans unlimited) standing
              created⟩
      · rw [apply_ensureDirectory]
        cases created : tree.createDirectory start reversedAbove.reverse name with
        | ok changed =>
            exact .inr ⟨changed, rfl, leadsAfresh_of_created unlimited stands created⟩
        | error fault =>
            dsimp only
            cases found : tree.directoryAt start (reversedAbove.reverse ++ [name]) with
            | ok directory => exact .inr ⟨tree, rfl, directory, found, .inl rfl⟩
            | error other => exact .inl ⟨_, rfl⟩

end Change

end FederationSplit.Files
