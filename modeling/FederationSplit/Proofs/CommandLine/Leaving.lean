import FederationSplit.CommandLine.Command
import FederationSplit.Proofs.Files.Changing
import FederationSplit.Proofs.Federation.Scaffold
import FederationSplit.Proofs.Generation.Writing

namespace FederationSplit.CommandLine

open FederationSplit.Federation
open FederationSplit.Files
open FederationSplit.Files.FileTree
open FederationSplit.Files.Change
open FederationSplit.Generation
open FederationSplit.Output
open FederationSplit.Settings
open FederationSplit.Text

theorem aboveName_notMem_foldl {start : Place} (down : aboveName ∉ start) (parts : List String) :
    aboveName ∉ parts.foldl Path.follow start := by
  induction parts generalizing start with
  | nil => exact down
  | cons part rest induction =>
      refine induction ?_
      unfold Path.follow
      split
      · exact fun member => down (List.dropLast_subset _ member)
      · next other =>
          rw [List.mem_append, List.mem_singleton, not_or]
          exact ⟨down, fun same => other same.symm⟩

theorem foldl_follow_eq_append {parts : List String} (down : aboveName ∉ parts) (start : Place) :
    parts.foldl Path.follow start = start ++ parts := by
  induction parts generalizing start with
  | nil => exact (List.append_nil start).symm
  | cons part rest induction =>
      rw [List.mem_cons, not_or] at down
      rw [List.foldl_cons, induction down.2, Path.follow, if_neg (Ne.symm down.1),
        List.append_assoc, List.singleton_append]

theorem placesFrom_eq_map {parts : List String} (down : aboveName ∉ parts) (start : Place) :
    placesFrom start parts =
      (List.range' 1 parts.length).map fun number => start ++ parts.take number := by
  induction parts generalizing start with
  | nil => rfl
  | cons part rest induction =>
      rw [List.mem_cons, not_or] at down
      have shifted : List.range' (1 + 1) rest.length = (List.range' 1 rest.length).map (1 + ·) := by
        simp [List.map_add_range']
      rw [placesFrom, Path.follow, if_neg (Ne.symm down.1), induction down.2, List.length_cons,
        List.range'_succ, List.map_cons, shifted, List.map_map]
      refine congrArg₂ List.cons rfl (List.map_congr_left fun number _ => ?_)
      rw [Function.comp_apply, Nat.add_comm, List.take_succ_cons, List.append_assoc,
        List.singleton_append]

theorem placesAlong_parent_ofPlace {target : Place} (down : aboveName ∉ target)
    (workingDirectory : Place) :
    (Path.ofPlace target).parent.placesAlong workingDirectory = ancestors target := by
  have above : aboveName ∉ target.dropLast := fun member => down (List.dropLast_subset _ member)
  rw [placesAlong_eq]
  change placesFrom [] target.dropLast = _
  rw [placesFrom_eq_map above, List.length_dropLast, ancestors]
  refine List.map_congr_left fun number member => ?_
  rw [List.mem_range'_1] at member
  rw [List.nil_append, List.dropLast_eq_take, List.take_take, Nat.min_eq_left (by omega)]

theorem place_ofPlace {target : Place} (down : aboveName ∉ target) (workingDirectory : Place) :
    (Path.ofPlace target).place workingDirectory = target :=
  foldl_follow_eq_append down []

/-- A file has been put in a tree, and directories above it where nothing was. -/
structure WritesFile (target : Place) (content : List UInt8) (before after : FileTree) : Prop where
  limits : after.limits = before.limits
  unused : before.isDirectory target = false
  passable (above : Place) (member : above ∈ ancestors target) :
    before.entry? above = none ∨ before.entry? above = some .directory
  entries (place : Place) : after.entry? place =
    if place = target then some (.file content)
    else if place ∈ ancestors target then some .directory
    else before.entry? place

theorem notMem_ancestors (place : Place) : place ∉ ancestors place := by
  intro member
  obtain ⟨number, listed, same⟩ := List.mem_map.mp member
  rw [List.mem_range'_1] at listed
  have shorter := congrArg List.length same
  rw [List.length_take] at shorter
  omega

theorem isDirectory_of_reached {target directory : Place} {between : FileTree}
    {workingDirectory : Place} (down : aboveName ∉ target)
    (reached : between.directoryAt ((Path.ofPlace target).start workingDirectory)
      (Path.ofPlace target).parts.dropLast = .ok directory) :
    ∀ above ∈ ancestors target, between.entry? above = some .directory := by
  have passed := isDirectory_of_directoryAt reached
    fun member => down (List.dropLast_subset _ member)
  rw [← placesAlong_parent_ofPlace down workingDirectory, placesAlong_eq]
  exact passed

theorem writesFile_of_reached {target directory : Place} {content : List UInt8}
    {before between after : FileTree} {workingDirectory : Place} (down : aboveName ∉ target)
    (adds : AddsDirectories ((Path.ofPlace target).parent.placesAlong workingDirectory) before
      between)
    (reached : between.directoryAt ((Path.ofPlace target).start workingDirectory)
      (Path.ofPlace target).parts.dropLast = .ok directory)
    (puts : PutsFile ((Path.ofPlace target).place workingDirectory) content between after) :
    WritesFile target content before after := by
  rw [placesAlong_parent_ofPlace down] at adds
  rw [place_ofPlace down] at puts
  have directories := isDirectory_of_reached down reached
  exact
    { limits := puts.limits.trans adds.limits
      unused := by
        rcases adds.entries target with same | ⟨allowed, -⟩
        · rw [isDirectory, ← same]
          exact puts.unused
        · exact absurd allowed (notMem_ancestors target)
      passable := fun above member => by
        rcases adds.entries above with same | ⟨-, free, -⟩
        · exact .inr (same ▸ directories above member)
        · exact .inl free
      entries := fun place => by
        rw [puts.entries]
        by_cases isTarget : place = target
        · rw [if_pos isTarget, if_pos isTarget]
        · rw [if_neg isTarget, if_neg isTarget]
          by_cases isAbove : place ∈ ancestors target
          · rw [if_pos isAbove, directories place isAbove]
          · rw [if_neg isAbove]
            exact (adds.entries place).resolve_right fun put => isAbove put.1 }

theorem eq_place_of_placeOfFile {environment : Environment} {parameter text : String}
    {place : Place} (found : Request.placeOfFile environment parameter text = .ok place) :
    place = (Path.ofText text).place environment.workingDirectory := by
  obtain ⟨_, -, found⟩ := bind_ok_iff.mp found
  dsimp only at found
  split at found <;> cases found
  rfl

section

variable {environment : Environment} {words : List String} {request : Request}

theorem aboveName_notMem_target (down : aboveName ∉ environment.workingDirectory)
    (requested : Request.ofWords environment words = .ok request) :
    aboveName ∉ request.target := by
  obtain ⟨arguments, -, requested⟩ := bind_ok_iff.mp requested
  split at requested
  · cases requested
  obtain ⟨options, -, requested⟩ := bind_ok_iff.mp requested
  obtain ⟨schemaText, -, requested⟩ := bind_ok_iff.mp requested
  obtain ⟨schema, -, requested⟩ := bind_ok_iff.mp requested
  obtain ⟨text, -, requested⟩ := bind_ok_iff.mp requested
  obtain ⟨target, found, requested⟩ := bind_ok_iff.mp requested
  have isTarget : request.target = target := by
    split at requested <;> cases requested
    rfl
  rw [isTarget, eq_place_of_placeOfFile found, Path.place]
  refine aboveName_notMem_foldl ?_ _
  unfold Path.start
  split
  · exact List.not_mem_nil
  · exact down

/-! ### What is written -/

/-- A text is ready for the target of a request, and it is known how to write it. -/
def Readies (environment : Environment) (request : Request) (text : String)
    (options : WriteOptions) : Prop :=
  ∃ preparation, prepare environment request = .ok preparation ∧
    preparation.generator.generate preparation.source preparation.commandLine = .ok text ∧
    writeOptions preparation.generator.config = .ok options

/-- A run has a text ready that passes the check, if that is asked for. -/
structure Generates (environment : Environment) (words : List String) (request : Request)
    (text : String) (options : WriteOptions) : Prop where
  requested : Request.ofWords environment words = .ok request
  generated : Readies environment request text options
  checked : options.isChecked = true → checkText text = .ok ()

theorem generateText_eq_ok_iff {generator : Generator} {source commandLine text : String}
    {options : WriteOptions} :
    generateText generator source commandLine = .ok (text, options) ↔
      generator.generate source commandLine = .ok text ∧
        writeOptions generator.config = .ok options := by
  unfold generateText
  rw [bind_ok_iff]
  cases generator.generate source commandLine with
  | error error => simp [Except.mapError]
  | ok generated =>
      cases writeOptions generator.config <;>
        simp [Except.mapError, bind, Except.bind, pure, Except.pure]

/-- How a run ends, and the files that it leaves then. -/
inductive Leaving (environment : Environment) (words : List String) :
    Except Stop Unit → FileTree → Prop
  | unchanged (stop : Stop) : Leaving environment words (.error stop) environment.files
  | failed {request : Request} {text : String} {options : WriteOptions} {stop : Stop}
      {error : FileError} {files : FileTree} (other : stop ≠ .help)
      (generates : Generates environment words request text options)
      (writing : Writing options.isAtomic environment.workingDirectory (Path.ofPlace request.target)
        (Utf8.encode? text) environment.files (.error error) files) :
      Leaving environment words (.error stop) files
  | written {request : Request} {text : String} {options : WriteOptions} {files : FileTree}
      (generates : Generates environment words request text options)
      (writing : Writing options.isAtomic environment.workingDirectory (Path.ofPlace request.target)
        (Utf8.encode? text) environment.files (.ok ()) files) :
      Leaving environment words (.ok ()) files

theorem ofWriteError_ne_help (text : String) (error : WriteError) :
    Stop.ofWriteError text error ≠ .help := by
  unfold Stop.ofWriteError
  split <;> exact nofun

theorem leaving_generateFile {preparation : Preparation}
    (requested : Request.ofWords environment words = .ok request)
    (prepared : prepare environment request = .ok preparation) :
    let outcome := generateFile environment request preparation
    Leaving environment words outcome.ending outcome.files := by
  unfold generateFile
  dsimp only
  cases generated : generateText preparation.generator preparation.source
      preparation.commandLine with
  | error stop => exact .unchanged stop
  | ok result =>
      obtain ⟨text, options⟩ := result
      obtain ⟨generated, stated⟩ := generateText_eq_ok_iff.mp generated
      dsimp only
      unfold writeSchema
      dsimp only
      cases checked : (if options.isChecked then checkText text else .ok ()) with
      | error error => exact .unchanged _
      | ok _ =>
          have generates : Generates environment words request text options :=
            { requested
              generated := ⟨preparation, prepared, generated, stated⟩
              checked := fun isChecked => by rwa [if_pos isChecked] at checked }
          have writing := writing_writeFile options.isAtomic environment.workingDirectory
            (Path.ofPlace request.target) (Utf8.encode? text) environment.files
          dsimp only at writing ⊢
          generalize (writeFile options.isAtomic environment.workingDirectory
            (Path.ofPlace request.target) (Utf8.encode? text)).apply environment.files = written
            at writing ⊢
          obtain ⟨_ | _, files⟩ := written
          · exact .failed (ofWriteError_ne_help _ _) generates writing
          · exact .written generates writing

theorem Leaving.reported {ending : Except Stop Unit} {files : FileTree}
    (leaving : Leaving environment words ending files) :
    Leaving environment words (reportedEnding environment ending) files := by
  unfold reportedEnding
  split
  · next command wanted =>
      split
      · exact leaving
      · cases leaving with
        | unchanged stop => exact .unchanged _
        | failed _ generates writing => exact .failed nofun generates writing
        | written _ _ => cases wanted
  · exact leaving

theorem leaving_run (environment : Environment) (words : List String) :
    let outcome := run environment words
    Leaving environment words outcome.ending outcome.files := by
  unfold run
  dsimp only
  cases requested : Request.ofWords environment words with
  | error refusal => exact .unchanged _
  | ok request =>
      dsimp only
      refine Leaving.reported ?_
      unfold perform
      cases prepared : prepare environment request with
      | error stop => exact .unchanged stop
      | ok preparation => exact leaving_generateFile requested prepared

theorem exitCode_eq_zero_iff (outcome : Outcome) :
    outcome.exitCode = 0 ↔ outcome.ending = .ok () ∨ outcome.ending = .error .help := by
  unfold Outcome.exitCode
  split
  · simp [*]
  · simp [*]
  · simp [*]
  · simp [*]
  · next found =>
      rw [found]
      split <;> simp

/--
A run that fails has changed nothing, or it had its text ready. Then directories above its target
can be new, and a target that is not replaced in one step is empty if its text has no bytes. A run
that succeeds has shown the help, or has written its text to its target.
-/
theorem files_of_run (down : aboveName ∉ environment.workingDirectory) (words : List String) :
    let outcome := run environment words
    (outcome.exitCode ≠ 0 → outcome.files = environment.files ∨
      ∃ request text options, Generates environment words request text options ∧
        (AddsDirectories (ancestors request.target) environment.files outcome.files ∨
          options.isAtomic = false ∧ Utf8.encode? text = none ∧
            WritesFile request.target [] environment.files outcome.files)) ∧
    (outcome.exitCode = 0 →
      outcome.ending = .error .help ∧ outcome.files = environment.files ∨
      ∃ request text options bytes, Generates environment words request text options ∧
        Utf8.encode? text = some bytes ∧
          WritesFile request.target bytes environment.files outcome.files) := by
  have leaving := leaving_run environment words
  dsimp only at leaving ⊢
  rw [ne_eq, exitCode_eq_zero_iff]
  generalize (run environment words).ending = ending at leaving ⊢
  generalize (run environment words).files = files at leaving ⊢
  cases leaving with
  | unchanged stop => exact ⟨fun _ => .inl rfl, fun ended => .inl ⟨by simpa using ended, rfl⟩⟩
  | @failed request text options stop _ _ other generates writing =>
      refine ⟨fun _ => .inr ⟨request, text, options, generates, ?_⟩, fun ended => ?_⟩
      · have downTarget := aboveName_notMem_target down generates.requested
        cases writing with
        | refused adds =>
            rw [placesAlong_parent_ofPlace downTarget] at adds
            exact .inl adds
        | emptied direct unfit adds reached puts =>
            exact .inr ⟨direct, unfit, writesFile_of_reached downTarget adds reached puts⟩
      · simp [other] at ended
  | @written request text options _ generates writing =>
      refine ⟨fun failed => absurd (Or.inl rfl) failed, fun _ => .inr ?_⟩
      have downTarget := aboveName_notMem_target down generates.requested
      cases writing with
      | written fits adds reached puts =>
          exact ⟨request, text, options, _, generates, fits,
            writesFile_of_reached downTarget adds reached puts⟩

theorem Generates.run_eq {text : String} {options : WriteOptions}
    (generates : Generates environment words request text options) :
    let written := writeSchema options environment.workingDirectory (Path.ofPlace request.target)
      text environment.files
    (run environment words).ending =
        reportedEnding environment (written.1.mapError (Stop.ofWriteError text)) ∧
      (run environment words).files = written.2 := by
  obtain ⟨preparation, prepared, generated, stated⟩ := generates.generated
  have ready := generateText_eq_ok_iff.mpr ⟨generated, stated⟩
  dsimp only
  rw [run, generates.requested]
  dsimp only
  rw [perform, prepared]
  dsimp only
  rw [generateFile]
  dsimp only
  rw [ready]
  dsimp only
  generalize writeSchema options environment.workingDirectory (Path.ofPlace request.target)
    text environment.files = written
  obtain ⟨_ | _, files⟩ := written <;> exact ⟨rfl, rfl⟩

end

def bytesOf (text : String) : List UInt8 :=
  text.toList.map fun character => .ofNat character.toNat

def uncheckedOptions : String :=
  "\x7b\"add_generation_comment\":false,\"empty_entity_policy\":\"omit\"," ++
    "\"output\":\x7b\"validate_before_write\":false\x7d\x7d"

/-- A tree in which a name can have no more than sixteen bytes. -/
def shortNames : FileTree where
  limits := { name := some 16, path := some 255 }
  entries :=
    [(["s"], .file (bytesOf hidingSource)), (["c"], .file (bytesOf uncheckedOptions))]

def shortNaming : Environment where
  workingDirectory := []
  assignments := []
  files := shortNames

def hidingRequest (target : Place) : Request where
  config := some ["c"]
  serviceName := some "cups"
  markerSelection := none
  isVerbose := false
  schema := ["s"]
  target := target

def uncheckedGenerator : Generator where
  config :=
    { plainGenerator.config with
      serviceName := .string "cups"
      output := .options (.boolean false) (.boolean true) }
  service := "cups"

/-- The name of the directory that is to hold the target is short enough. -/
def fittingWords : List String := ["-c", "c", "-s", "cups", "s", "new/o"]

def overlongWords : List String := ["-c", "c", "-s", "cups", "s", "new/ddddddddddddddddd/o"]

def fittingTarget : Place := ["new", "o"]

def overlongTarget : Place := ["new", "ddddddddddddddddd", "o"]

private theorem generatorOfRequest_hidingRequest :
    generatorOfRequest shortNames (hidingRequest []) = .ok uncheckedGenerator := by
  decide +kernel

private theorem sourceOfContent_hidingSource :
    sourceOfContent ((shortNames.content? ["s"]).getD []) = .ok hidingSource := by
  decide

private theorem prepare_hidingRequest {target : Place}
    (shown : ((hidingRequest target).commandLine shortNaming).isOk = true) :
    ∃ commandLine, prepare shortNaming (hidingRequest target) =
      .ok { generator := uncheckedGenerator, commandLine, source := hidingSource } := by
  have generator :
      generatorOfRequest shortNames (hidingRequest target) = .ok uncheckedGenerator :=
    generatorOfRequest_hidingRequest
  have source :
      sourceOfContent ((shortNames.content? (hidingRequest target).schema).getD []) =
        .ok hidingSource :=
    sourceOfContent_hidingSource
  cases commandLine : (hidingRequest target).commandLine shortNaming with
  | error fault =>
      rw [commandLine] at shown
      cases shown
  | ok text =>
      refine ⟨text, bind_ok_iff.mpr ⟨_, generator, ?_⟩⟩
      rw [commandLine]
      exact bind_ok_iff.mpr ⟨_, rfl, bind_ok_iff.mpr ⟨_, source, rfl⟩⟩

private theorem generates_hidingSource {words : List String} {target : Place}
    (requested : Request.ofWords shortNaming words = .ok (hidingRequest target))
    (shown : ((hidingRequest target).commandLine shortNaming).isOk = true) :
    Generates shortNaming words (hidingRequest target) hidingSubgraph.print
      { isChecked := false, isAtomic := true } := by
  obtain ⟨commandLine, prepared⟩ := prepare_hidingRequest shown
  have same : uncheckedGenerator.subgraph hidingSource = plainGenerator.subgraph hidingSource := rfl
  exact
    { requested
      generated := ⟨_, prepared, Generator.generate_ok_iff.mpr
        ⟨hidingSubgraph, same.trans subgraph_hidingSource, rfl⟩, rfl⟩
      checked := nofun }

private theorem run_hidingRequest {words : List String} {target : Place}
    (requested : Request.ofWords shortNaming words = .ok (hidingRequest target))
    (shown : ((hidingRequest target).commandLine shortNaming).isOk = true) :
    let written := (writeFile true [] (Path.ofPlace target)
      (Utf8.encode? hidingSubgraph.print)).apply shortNames
    (run shortNaming words).ending = (written.1.mapError fun error =>
        Stop.ofWriteError hidingSubgraph.print (.file error)) ∧
      (run shortNaming words).files = written.2 := by
  obtain ⟨ending, files⟩ := (generates_hidingSource requested shown).run_eq
  have silent (ending : Except Stop Unit) : reportedEnding shortNaming ending = ending := by
    have unwanted : wantsCommands shortNaming = false := by decide
    have none : workflowCommand? shortNaming ending = none := by
      unfold workflowCommand?
      split
      · rw [unwanted, if_neg Bool.false_ne_true]
      · rfl
    rw [reportedEnding, none]
  rw [silent] at ending
  dsimp only
  rw [ending, files]
  dsimp only [writeSchema, shortNaming, hidingRequest]
  simp only [Bool.false_eq_true, if_false]
  rcases (writeFile true [] (Path.ofPlace target)
    (Utf8.encode? hidingSubgraph.print)).apply shortNames with ⟨_ | _, _⟩ <;>
    exact ⟨rfl, trivial⟩

private theorem ofWords_fittingWords :
    Request.ofWords shortNaming fittingWords = .ok (hidingRequest fittingTarget) := by
  decide

private theorem ofWords_overlongWords :
    Request.ofWords shortNaming overlongWords = .ok (hidingRequest overlongTarget) := by
  decide

private theorem ending_fittingWords : (run shortNaming fittingWords).ending = .ok () := by
  obtain ⟨bytes, encoded⟩ := encode?_hidingSubgraph
  obtain ⟨ending, -⟩ := run_hidingRequest ofWords_fittingWords (by decide)
  have written : ((writeFile true [] (Path.ofPlace fittingTarget) (some bytes)).apply
      shortNames).1 = .ok () := rfl
  rw [encoded, written] at ending
  exact ending

private theorem run_overlongWords :
    (∃ stop, stop ≠ .help ∧ (run shortNaming overlongWords).ending = .error stop) ∧
      (run shortNaming overlongWords).files = shortNames.set ["new"] .directory := by
  have refused (content : Option (List UInt8)) : ∃ error,
      (writeFile true [] (Path.ofPlace overlongTarget) content).apply shortNames =
        (.error error, shortNames.set ["new"] .directory) := ⟨_, rfl⟩
  obtain ⟨error, written⟩ := refused (Utf8.encode? hidingSubgraph.print)
  obtain ⟨ending, files⟩ := run_hidingRequest ofWords_overlongWords (by decide)
  rw [written] at ending files
  exact ⟨⟨_, ofWriteError_ne_help _ _, ending⟩, files⟩

private theorem exitCode_overlongWords : (run shortNaming overlongWords).exitCode ≠ 0 := by
  obtain ⟨⟨stop, other, ending⟩, -⟩ := run_overlongWords
  rw [Ne, exitCode_eq_zero_iff, ending]
  simpa using other

theorem directory_left_overlongWords :
    let outcome := run shortNaming overlongWords
    outcome.exitCode ≠ 0 ∧ shortNaming.files.entry? ["new"] = none ∧
      outcome.files.entry? ["new"] = some .directory := by
  refine ⟨exitCode_overlongWords, by decide, ?_⟩
  rw [run_overlongWords.2, entry?_set (by decide), if_pos rfl]

/-- One of the two runs fails and the other writes its target. -/
theorem files_of_run_shortNaming :
    aboveName ∉ shortNaming.workingDirectory ∧
    (∃ request text options, Generates shortNaming overlongWords request text options ∧
      (AddsDirectories (ancestors request.target) shortNames
          (run shortNaming overlongWords).files ∨
        options.isAtomic = false ∧ Utf8.encode? text = none ∧
          WritesFile request.target [] shortNames (run shortNaming overlongWords).files)) ∧
    ∃ request text options bytes, Generates shortNaming fittingWords request text options ∧
      Utf8.encode? text = some bytes ∧
        WritesFile request.target bytes shortNames (run shortNaming fittingWords).files := by
  have down : aboveName ∉ shortNaming.workingDirectory := List.not_mem_nil
  refine ⟨down, ?_, ?_⟩
  · refine ((files_of_run down overlongWords).1 exitCode_overlongWords).resolve_left ?_
    intro same
    have entry := congrArg (fun files => FileTree.entry? files ["new"])
      (run_overlongWords.2.symm.trans same)
    revert entry
    decide
  · have succeeds := (exitCode_eq_zero_iff _).mpr (.inl ending_fittingWords)
    refine ((files_of_run down fittingWords).2 succeeds).resolve_left ?_
    rw [ending_fittingWords]
    exact nofun

end FederationSplit.CommandLine
