import FederationSplit.Proofs.CommandLine.Leaving
import FederationSplit.Proofs.Settings.Loading

namespace FederationSplit.CommandLine

open FederationSplit.Federation
open FederationSplit.Files
open FederationSplit.Files.Change
open FederationSplit.Generation
open FederationSplit.Output
open FederationSplit.Settings
open FederationSplit.Syntax
open FederationSplit.Text

theorem mapError_eq_error_iff {ε ε' α : Type} {change : ε → ε'} {outcome : Except ε α}
    {error : ε'} :
    outcome.mapError change = .error error ↔
      ∃ cause, outcome = .error cause ∧ change cause = error := by
  cases outcome <;> simp [Except.mapError]

/-! ### Preparing -/

/-- A run that is asked to load its options from an object. -/
structure LoadsObject (environment : Environment) (words : List String) (request : Request)
    (members : List (String × Json)) : Prop where
  requested : Request.ofWords environment words = .ok request
  loaded : ∃ content text, request.config.bind environment.files.content? = some content ∧
    Utf8.decode content = .ok text ∧ Json.parse? text = some (.object members)

def overridden (request : Request) (config : Config) : Config :=
  { config with
    serviceName := (request.serviceName.map Json.string).getD config.serviceName
    markerSelection := request.markerSelection.getD config.markerSelection }

/-- Why a member that cannot be set ends a command. -/
def Stop.ofLoadError : Config.LoadError → Stop
  | .invalidChoice invalid => .usage (.configInvalid invalid)
  | .notSettable _ => .defect .optionNotSettable
  | .unfitValue _ => .defect .optionUnfit

variable {environment : Environment} {words : List String} {request : Request}
  {members : List (String × Json)}

theorem LoadsObject.configOfRequest_eq (loads : LoadsObject environment words request members) :
    configOfRequest environment.files request =
      ((Config.ofMembers members).mapError Stop.ofLoadError).map (overridden request) := by
  obtain ⟨content, text, held, decoded, parsed⟩ := loads.loaded
  have read : configOfContent content =
      (Config.ofMembers members).mapError Stop.ofLoadError := by
    rw [configOfContent, decoded]
    dsimp only [Except.mapError, bind, Except.bind]
    rw [parsed]
    dsimp only
    cases Config.ofMembers members with
    | ok config => rfl
    | error error => cases error <;> rfl
  rw [configOfRequest, held]
  dsimp only
  rw [read]
  cases (Config.ofMembers members).mapError Stop.ofLoadError <;> rfl

theorem LoadsObject.configOfRequest_ok_iff (loads : LoadsObject environment words request members)
    {config : Config} : configOfRequest environment.files request = .ok config ↔
      ∃ loaded, Config.ofMembers members = .ok loaded ∧ overridden request loaded = config := by
  rw [loads.configOfRequest_eq]
  cases Config.ofMembers members <;> simp [Except.mapError, Except.map]

theorem LoadsObject.configOfRequest_error_iff
    (loads : LoadsObject environment words request members) {stop : Stop} :
    configOfRequest environment.files request = .error stop ↔
      ∃ error, Config.firstRefusal? members = some error ∧ Stop.ofLoadError error = stop := by
  rw [loads.configOfRequest_eq]
  simp only [← Config.ofMembers_eq_error_iff]
  cases Config.ofMembers members <;> simp [Except.mapError, Except.map]

theorem generatorOfRequest_ok_iff {files : FileTree} {generator : Generator} :
    generatorOfRequest files request = .ok generator ↔
      ∃ config, configOfRequest files request = .ok config ∧
        Generator.ofConfig? config = some generator := by
  rw [generatorOfRequest, bind_ok_iff]
  refine exists_congr fun config => and_congr_right fun _ => ?_
  cases Generator.ofConfig? config <;>
    simp [pure, Except.pure, throw, throwThe, MonadExceptOf.throw]

theorem generatorOfRequest_error_iff {files : FileTree} {stop : Stop} :
    generatorOfRequest files request = .error stop ↔
      configOfRequest files request = .error stop ∨
        ∃ config, configOfRequest files request = .ok config ∧ config.serviceName? = none ∧
          stop = .defect .serviceNameNoText := by
  rw [generatorOfRequest, bind_error_iff]
  refine or_congr_right (exists_congr fun config => and_congr_right fun _ => ?_)
  rw [Generator.ofConfig?]
  cases config.serviceName? <;>
    simp [pure, Except.pure, throw, throwThe, MonadExceptOf.throw, eq_comm]

theorem prepare_ok_iff {preparation : Preparation} :
    prepare environment request = .ok preparation ↔
      generatorOfRequest environment.files request = .ok preparation.generator ∧
      request.commandLine environment = .ok preparation.commandLine ∧
      sourceOfContent ((environment.files.content? request.schema).getD []) =
        .ok preparation.source := by
  obtain ⟨generator, commandLine, source⟩ := preparation
  rw [prepare, bind_ok_iff]
  cases generatorOfRequest environment.files request <;>
    cases request.commandLine environment <;>
      cases sourceOfContent ((environment.files.content? request.schema).getD []) <;>
        simp [Except.mapError, bind, Except.bind, pure, Except.pure]

theorem prepare_error_iff {stop : Stop} :
    prepare environment request = .error stop ↔
      generatorOfRequest environment.files request = .error stop ∨
      ∃ generator, generatorOfRequest environment.files request = .ok generator ∧
        ((∃ fault, request.commandLine environment = .error fault ∧
            stop = .defect (.name fault)) ∨
          ∃ text fault, request.commandLine environment = .ok text ∧
            Utf8.decode ((environment.files.content? request.schema).getD []) = .error fault ∧
            stop = .failure (.undecodable fault)) := by
  rw [prepare, bind_error_iff]
  refine or_congr_right (exists_congr fun generator => and_congr_right fun _ => ?_)
  cases request.commandLine environment with
  | error fault => simp [Except.mapError, bind, Except.bind, @eq_comm _ stop]
  | ok commandLine =>
      cases decoded : Utf8.decode ((environment.files.content? request.schema).getD []) <;>
        simp [sourceOfContent, decoded, Except.mapError, bind, Except.bind, pure, Except.pure,
          @eq_comm _ stop]

theorem generate_error_iff {generator : Generator} {source commandLine : String}
    {error : GenerationError} :
    generator.generate source commandLine = .error error ↔
      (∃ cause, generator.load source = .error cause ∧ error = .load cause) ∨
        ∃ schema cause, generator.load source = .ok schema ∧
          transform generator.config schema = .error cause ∧ error = .scaffold cause := by
  unfold Generator.generate Generator.subgraph
  cases generator.load source with
  | error cause => simp [Except.mapError, bind, Except.bind, eq_comm]
  | ok schema =>
      cases transformed : transform generator.config schema <;>
        simp [transformed, Except.mapError, bind, Except.bind, pure, Except.pure, eq_comm]

theorem generate_kindUnknown_iff {generator : Generator} {source commandLine : String} :
    generator.generate source commandLine = .error (.load .kindUnknown) ↔
      (∃ document, Document.parse source = .ok document) ∧
        generator.config.hasUnknownKind = true := by
  have told (kind : InputKind) (service : String) (document : Document) :
      loadDocument kind service document ≠ .error .kindUnknown := by
    unfold loadDocument loadSupergraph
    split
    · cases compose service document <;> simp [Except.mapError]
    · split <;> exact nofun
  rw [generate_error_iff]
  simp only [GenerationError.load.injEq, reduceCtorEq, and_false, exists_false, or_false,
    exists_eq_right']
  unfold Generator.load
  cases Document.parse source with
  | error error => simp [Except.mapError, bind, Except.bind]
  | ok document =>
      cases unknown : generator.config.hasUnknownKind <;>
        simp [Except.mapError, bind, Except.bind, throw, throwThe, MonadExceptOf.throw, told]

theorem ofGenerationError_eq_defect_iff {source : String} {error : GenerationError}
    {defect : Defect} :
    Stop.ofGenerationError source error = .defect defect ↔
      error = .load .kindUnknown ∧ defect = .kindUnknown ∨
        ∃ number, error.obstacle? = some number ∧ defect = .numberTooLong number := by
  unfold Stop.ofGenerationError
  split
  · simp [GenerationError.obstacle?, LoadError.obstacle?, eq_comm]
  · next other =>
      have known : error ≠ .load .kindUnknown := other
      cases error.obstacle? <;> simp [known, eq_comm]

theorem writeOptions_error_iff {config : Config} {stop : Stop} :
    writeOptions config = .error stop ↔
      (∀ validateBeforeWrite atomicWrite,
        config.output ≠ .options validateBeforeWrite atomicWrite) ∧
        stop = .defect .outputNoObject := by
  unfold writeOptions
  cases config.output <;> simp [eq_comm]

theorem generateText_error_iff {generator : Generator} {source commandLine : String}
    {stop : Stop} :
    generateText generator source commandLine = .error stop ↔
      (∃ error, generator.generate source commandLine = .error error ∧
        Stop.ofGenerationError source error = stop) ∨
      ∃ text, generator.generate source commandLine = .ok text ∧
        writeOptions generator.config = .error stop := by
  unfold generateText
  cases generator.generate source commandLine with
  | error error => simp [Except.mapError, bind, Except.bind]
  | ok text =>
      cases writeOptions generator.config <;>
        simp [Except.mapError, bind, Except.bind, pure, Except.pure]

theorem ofWriteError_eq_defect_iff {text : String} {error : WriteError} {defect : Defect} :
    Stop.ofWriteError text error = .defect defect ↔
      (∃ number, error = .text (.unordered number) ∧ defect = .numberTooLong number) ∨
        ∃ cause, error = .file cause ∧ cause.fault = .unencodable ∧
          defect = .name .unencodable := by
  unfold Stop.ofWriteError
  split
  · simp [eq_comm]
  · simp [eq_comm]
  · next notUnordered notUnencodable =>
      simp only [reduceCtorEq, false_iff, not_or, not_exists, not_and]
      refine ⟨fun number same => (notUnordered number same).elim, fun cause same unfit => ?_⟩
      obtain ⟨fault, path⟩ := cause
      cases unfit
      exact (notUnencodable path same).elim

theorem writeSchema_error_iff {options : WriteOptions} {workingDirectory : Place} {path : Path}
    {text : String} {files : FileTree} {error : WriteError} :
    (writeSchema options workingDirectory path text files).1 = .error error ↔
      (∃ cause, options.isChecked = true ∧ checkText text = .error cause ∧ error = .text cause) ∨
        (options.isChecked = true → checkText text = .ok ()) ∧
          ∃ cause, ((writeFile options.isAtomic workingDirectory path
            (Utf8.encode? text)).apply files).1 = .error cause ∧ error = .file cause := by
  unfold writeSchema
  cases options.isChecked with
  | false => simp [mapError_eq_error_iff, @eq_comm _ error]
  | true =>
      cases checkText text with
      | error cause => simp [eq_comm]
      | ok _ => simp [mapError_eq_error_iff, @eq_comm _ error]

theorem ending_perform (environment : Environment) (request : Request) :
    (perform environment request).ending = (do
      let preparation ← prepare environment request
      let ready ←
        generateText preparation.generator preparation.source preparation.commandLine
      (writeSchema ready.2 environment.workingDirectory (Path.ofPlace request.target) ready.1
        environment.files).1.mapError (Stop.ofWriteError ready.1)) := by
  rw [perform]
  cases prepare environment request with
  | error stop => rfl
  | ok preparation =>
      dsimp only [bind, Except.bind]
      rw [generateFile]
      dsimp only
      cases generateText preparation.generator preparation.source preparation.commandLine with
      | error stop => rfl
      | ok ready =>
          dsimp only
          rcases writeSchema ready.2 environment.workingDirectory (Path.ofPlace request.target)
            ready.1 environment.files with ⟨_ | _, _⟩ <;> rfl

theorem perform_error_iff {stop : Stop} :
    (perform environment request).ending = .error stop ↔
      prepare environment request = .error stop ∨
      (∃ preparation, prepare environment request = .ok preparation ∧
        generateText preparation.generator preparation.source preparation.commandLine =
          .error stop) ∨
      ∃ text options error, Readies environment request text options ∧
        (writeSchema options environment.workingDirectory (Path.ofPlace request.target) text
          environment.files).1 = .error error ∧ Stop.ofWriteError text error = stop := by
  simp only [ending_perform, bind_error_iff, mapError_eq_error_iff, Readies,
    ← generateText_eq_ok_iff]
  constructor
  · rintro (refused | ⟨preparation, prepared, refused | ⟨⟨text, options⟩, ready, error, failed⟩⟩)
    · exact .inl refused
    · exact .inr (.inl ⟨preparation, prepared, refused⟩)
    · exact .inr (.inr ⟨text, options, error, ⟨preparation, prepared, ready⟩, failed⟩)
  · rintro (refused | ⟨preparation, prepared, refused⟩ |
      ⟨text, options, error, ⟨preparation, prepared, ready⟩, failed⟩)
    · exact .inl refused
    · exact .inr ⟨preparation, prepared, .inl refused⟩
    · exact .inr ⟨preparation, prepared, .inr ⟨(text, options), ready, error, failed⟩⟩

/-! ### Breaking off -/

/-- Why a run breaks off that loads its options from the members of an object. -/
inductive BreaksOff (environment : Environment) (words : List String) (request : Request)
    (members : List (String × Json)) : Defect → Prop
  | notSettable {key : String}
      (refused : Config.firstRefusal? members = some (.notSettable key)) :
      BreaksOff environment words request members .optionNotSettable
  | unfit {key : String} (refused : Config.firstRefusal? members = some (.unfitValue key)) :
      BreaksOff environment words request members .optionUnfit
  | unnamed {config : Config} (loaded : Config.ofMembers members = .ok config)
      (noName : (overridden request config).serviceName? = none) :
      BreaksOff environment words request members .serviceNameNoText
  | unshown {generator : Generator} {fault : Files.Fault}
      (asked : generatorOfRequest environment.files request = .ok generator)
      (refused : request.commandLine environment = .error fault) :
      BreaksOff environment words request members (.name fault)
  | kindUnknown {config : Config} {preparation : Preparation} {document : Document}
      (loaded : Config.ofMembers members = .ok config)
      (prepared : prepare environment request = .ok preparation)
      (parsed : Document.parse preparation.source = .ok document)
      (unknown : config.hasUnknownKind = true) :
      BreaksOff environment words request members .kindUnknown
  | unreportable {preparation : Preparation} {error : GenerationError} {number : OversizedNumber}
      (prepared : prepare environment request = .ok preparation)
      (failed : preparation.generator.generate preparation.source preparation.commandLine =
        .error error)
      (obstacle : error.obstacle? = some number) :
      BreaksOff environment words request members (.numberTooLong number)
  | unwritable {config : Config} {preparation : Preparation} {text : String}
      (loaded : Config.ofMembers members = .ok config)
      (prepared : prepare environment request = .ok preparation)
      (generated : preparation.generator.generate preparation.source preparation.commandLine =
        .ok text)
      (noObject : ∀ validateBeforeWrite atomicWrite,
        config.output ≠ .options validateBeforeWrite atomicWrite) :
      BreaksOff environment words request members .outputNoObject
  | unchecked {text : String} {options : WriteOptions} {number : OversizedNumber}
      (ready : Readies environment request text options) (isChecked : options.isChecked = true)
      (unordered : checkText text = .error (.unordered number)) :
      BreaksOff environment words request members (.numberTooLong number)
  | unencodable {text : String} {options : WriteOptions} {error : FileError}
      (generates : Generates environment words request text options)
      (failed : ((writeFile options.isAtomic environment.workingDirectory
        (Path.ofPlace request.target) (Utf8.encode? text)).apply environment.files).1 =
          .error error)
      (unfit : error.fault = .unencodable) :
      BreaksOff environment words request members (.name .unencodable)
  | unannounced {failure : Failure} {command : String}
      (failed : (perform environment request).ending = .error (.failure failure))
      (wanted : workflowCommand? environment (.error (.failure failure)) = some command)
      (unfit : isWellFormed command = false) :
      BreaksOff environment words request members (.name .unencodable)

theorem LoadsObject.loaded_of_prepare (loads : LoadsObject environment words request members)
    {preparation : Preparation} (prepared : prepare environment request = .ok preparation) :
    ∃ config, Config.ofMembers members = .ok config ∧
      preparation.generator.config = overridden request config := by
  obtain ⟨config, configured, generator⟩ :=
    generatorOfRequest_ok_iff.mp (prepare_ok_iff.mp prepared).1
  obtain ⟨loaded, isLoaded, rfl⟩ := loads.configOfRequest_ok_iff.mp configured
  refine ⟨loaded, isLoaded, ?_⟩
  obtain ⟨service, -, same⟩ := Option.map_eq_some_iff.mp generator
  rw [← same]

theorem LoadsObject.config_eq (loads : LoadsObject environment words request members)
    {config : Config} {preparation : Preparation} (loaded : Config.ofMembers members = .ok config)
    (prepared : prepare environment request = .ok preparation) :
    preparation.generator.config = overridden request config := by
  obtain ⟨other, otherLoaded, same⟩ := loads.loaded_of_prepare prepared
  cases loaded.symm.trans otherLoaded
  exact same

theorem reportedEnding_eq {ending : Except Stop Unit}
    (other : ∀ failure, ending ≠ .error (.failure failure)) :
    reportedEnding environment ending = ending := by
  have silent : workflowCommand? environment ending = none := by
    unfold workflowCommand?
    split
    · exact absurd rfl (other _)
    · rfl
  rw [reportedEnding, silent]

theorem reportedEnding_failure_iff {failure : Failure} {stop : Stop}
    (other : ∀ failure, stop ≠ .failure failure) :
    reportedEnding environment (.error (.failure failure)) = .error stop ↔
      ∃ command, workflowCommand? environment (.error (.failure failure)) = some command ∧
        isWellFormed command = false ∧ stop = .defect (.name .unencodable) := by
  unfold reportedEnding
  cases workflowCommand? environment (.error (.failure failure)) with
  | none => simpa using (other failure).symm
  | some command =>
      cases fits : isWellFormed command with
      | true => simpa [fits] using (other failure).symm
      | false => simp [fits, @eq_comm _ stop]

theorem reportedEnding_error_iff {ending : Except Stop Unit} {stop : Stop}
    (other : ∀ failure, stop ≠ .failure failure) :
    reportedEnding environment ending = .error stop ↔
      ending = .error stop ∨
        ∃ failure command, ending = .error (.failure failure) ∧
          workflowCommand? environment (.error (.failure failure)) = some command ∧
          isWellFormed command = false ∧ stop = .defect (.name .unencodable) := by
  by_cases fails : ∃ failure, ending = .error (.failure failure)
  · obtain ⟨failure, rfl⟩ := fails
    rw [reportedEnding_failure_iff other]
    simp [(other _).symm]
  · rw [not_exists] at fails
    rw [reportedEnding_eq fails]
    simp [fails]

theorem reportedEnding_defect_iff {ending : Except Stop Unit} {defect : Defect} :
    reportedEnding environment ending = .error (.defect defect) ↔
      ending = .error (.defect defect) ∨
        ∃ failure command, ending = .error (.failure failure) ∧
          workflowCommand? environment (.error (.failure failure)) = some command ∧
          isWellFormed command = false ∧ defect = .name .unencodable := by
  rw [reportedEnding_error_iff (fun _ same => by cases same)]
  simp only [Stop.defect.injEq]

theorem reportedEnding_usage_iff {ending : Except Stop Unit} {error : UsageError} :
    reportedEnding environment ending = .error (.usage error) ↔ ending = .error (.usage error) := by
  rw [reportedEnding_error_iff (fun _ same => by cases same)]
  simp

theorem ending_run (requested : Request.ofWords environment words = .ok request) :
    (run environment words).ending =
      reportedEnding environment (perform environment request).ending := by
  rw [run, requested]

theorem breaksOff_of_perform (loads : LoadsObject environment words request members)
    {defect : Defect} (ended : (perform environment request).ending = .error (.defect defect)) :
    BreaksOff environment words request members defect := by
  -- The run ends when it is prepared, when its text is generated, or when that is written.
  rcases perform_error_iff.mp ended with
    refused | ⟨preparation, prepared, refused⟩ | ⟨text, options, error, ready, failed, stopped⟩
  · rcases prepare_error_iff.mp refused with
      unasked | ⟨generator, asked, ⟨fault, unshown, same⟩ | ⟨_, _, _, _, same⟩⟩
    · rcases generatorOfRequest_error_iff.mp unasked with
        unset | ⟨config, configured, noName, same⟩
      · obtain ⟨error, first, stopped⟩ := loads.configOfRequest_error_iff.mp unset
        cases error with
        | invalidChoice invalid => cases stopped
        | notSettable key =>
            cases stopped
            exact .notSettable first
        | unfitValue key =>
            cases stopped
            exact .unfit first
      · obtain ⟨loaded, isLoaded, rfl⟩ := loads.configOfRequest_ok_iff.mp configured
        cases same
        exact .unnamed isLoaded noName
    · cases same
      exact .unshown asked unshown
    · cases same
  · obtain ⟨config, loaded, same⟩ := loads.loaded_of_prepare prepared
    rcases generateText_error_iff.mp refused with
      ⟨error, failed, stopped⟩ | ⟨text, generated, refused⟩
    · rcases ofGenerationError_eq_defect_iff.mp stopped with
        ⟨rfl, rfl⟩ | ⟨number, obstacle, rfl⟩
      · obtain ⟨⟨document, parsed⟩, unknown⟩ := generate_kindUnknown_iff.mp failed
        rw [same] at unknown
        exact .kindUnknown loaded prepared parsed unknown
      · exact .unreportable prepared failed obstacle
    · obtain ⟨noObject, stopped⟩ := writeOptions_error_iff.mp refused
      cases stopped
      rw [same] at noObject
      exact .unwritable loaded prepared generated noObject
  · rcases ofWriteError_eq_defect_iff.mp stopped with
      ⟨number, rfl, rfl⟩ | ⟨cause, rfl, unfit, rfl⟩
    · obtain ⟨_, isChecked, unordered, same⟩ | ⟨-, _, -, same⟩ := writeSchema_error_iff.mp failed
      · cases same
        exact .unchecked ready isChecked unordered
      · cases same
    · obtain ⟨_, -, -, same⟩ | ⟨checked, _, failed, same⟩ := writeSchema_error_iff.mp failed
      · cases same
      · cases same
        exact .unencodable ⟨loads.requested, ready, checked⟩ failed unfit

private theorem perform_of_unconfigured {stop : Stop}
    (refused : configOfRequest environment.files request = .error stop ∨
      ∃ config, configOfRequest environment.files request = .ok config ∧
        config.serviceName? = none ∧ stop = .defect .serviceNameNoText) :
    (perform environment request).ending = .error stop := by
  rw [perform_error_iff]
  exact .inl (prepare_error_iff.mpr (.inl (generatorOfRequest_error_iff.mpr refused)))

private theorem perform_of_ungenerated {preparation : Preparation} {stop : Stop}
    (prepared : prepare environment request = .ok preparation)
    (refused : (∃ error, preparation.generator.generate preparation.source
        preparation.commandLine = .error error ∧
        Stop.ofGenerationError preparation.source error = stop) ∨
      ∃ text, preparation.generator.generate preparation.source preparation.commandLine =
        .ok text ∧ writeOptions preparation.generator.config = .error stop) :
    (perform environment request).ending = .error stop :=
  perform_error_iff.mpr (.inr (.inl ⟨_, prepared, generateText_error_iff.mpr refused⟩))

theorem BreaksOff.ending_run (loads : LoadsObject environment words request members)
    {defect : Defect} (breaks : BreaksOff environment words request members defect) :
    (run environment words).ending = .error (.defect defect) := by
  rw [CommandLine.ending_run loads.requested, reportedEnding_defect_iff]
  -- All but the last reason end the run before it is announced how it ends.
  cases breaks with
  | notSettable refused =>
      exact .inl (perform_of_unconfigured
        (.inl (loads.configOfRequest_error_iff.mpr ⟨_, refused, rfl⟩)))
  | unfit refused =>
      exact .inl (perform_of_unconfigured
        (.inl (loads.configOfRequest_error_iff.mpr ⟨_, refused, rfl⟩)))
  | unnamed loaded noName =>
      exact .inl (perform_of_unconfigured (.inr
        ⟨_, loads.configOfRequest_ok_iff.mpr ⟨_, loaded, rfl⟩, noName, rfl⟩))
  | unshown asked refused =>
      have unprepared := prepare_error_iff.mpr (.inr ⟨_, asked, .inl ⟨_, refused, rfl⟩⟩)
      exact .inl (perform_error_iff.mpr (.inl unprepared))
  | @kindUnknown config preparation document loaded prepared parsed unknown =>
      have unknown : preparation.generator.config.hasUnknownKind = true := by
        rw [loads.config_eq loaded prepared]
        exact unknown
      exact .inl (perform_of_ungenerated prepared
        (.inl ⟨_, generate_kindUnknown_iff.mpr ⟨⟨_, parsed⟩, unknown⟩, rfl⟩))
  | unreportable prepared failed obstacle =>
      exact .inl (perform_of_ungenerated prepared
        (.inl ⟨_, failed, ofGenerationError_eq_defect_iff.mpr (.inr ⟨_, obstacle, rfl⟩)⟩))
  | @unwritable config preparation text loaded prepared generated noObject =>
      have noObject : ∀ validateBeforeWrite atomicWrite,
          preparation.generator.config.output ≠ .options validateBeforeWrite atomicWrite := by
        rw [loads.config_eq loaded prepared]
        exact noObject
      have refused := writeOptions_error_iff.mpr ⟨noObject, rfl⟩
      exact .inl (perform_of_ungenerated prepared (.inr ⟨_, generated, refused⟩))
  | unchecked ready isChecked unordered =>
      exact .inl (perform_error_iff.mpr (.inr (.inr ⟨_, _, .text (.unordered _), ready,
        writeSchema_error_iff.mpr (.inl ⟨_, isChecked, unordered, rfl⟩),
        ofWriteError_eq_defect_iff.mpr (.inl ⟨_, rfl, rfl⟩)⟩)))
  | unencodable generates unwritten unfit =>
      exact .inl (perform_error_iff.mpr (.inr (.inr ⟨_, _, .file _, generates.generated,
        writeSchema_error_iff.mpr (.inr ⟨generates.checked, _, unwritten, rfl⟩),
        ofWriteError_eq_defect_iff.mpr (.inr ⟨_, rfl, unfit, rfl⟩)⟩)))
  | unannounced failed wanted unfit => exact .inr ⟨_, _, failed, wanted, unfit, rfl⟩

theorem perform_usage_iff {error : UsageError} :
    (perform environment request).ending = .error (.usage error) ↔
      configOfRequest environment.files request = .error (.usage error) := by
  constructor
  · intro ended
    rcases perform_error_iff.mp ended with
      unprepared | ⟨_, _, ungenerated⟩ | ⟨text, _, error, _, _, stopped⟩
    · rcases prepare_error_iff.mp unprepared with
        unasked | ⟨_, _, ⟨_, _, same⟩ | ⟨_, _, _, _, same⟩⟩
      · rcases generatorOfRequest_error_iff.mp unasked with unset | ⟨_, _, _, same⟩
        · exact unset
        · cases same
      · cases same
      · cases same
    · rcases generateText_error_iff.mp ungenerated with ⟨error, _, stopped⟩ | ⟨_, _, refused⟩
      · unfold Stop.ofGenerationError at stopped
        split at stopped
        · cases stopped
        · split at stopped <;> cases stopped
      · cases (writeOptions_error_iff.mp refused).2
    · unfold Stop.ofWriteError at stopped
      split at stopped <;> cases stopped
  · intro refused
    have unasked := generatorOfRequest_error_iff.mpr (.inl refused)
    exact perform_error_iff.mpr (.inl (prepare_error_iff.mpr (.inl unasked)))

theorem overridden_serviceName?_eq_none_iff {config : Config} :
    (overridden request config).serviceName? = none ↔
      request.serviceName = none ∧ config.serviceName? = none := by
  cases given : request.serviceName <;> simp [overridden, Config.serviceName?, given]

theorem BreaksOff.cases_of_plain {defect : Defect}
    (breaks : BreaksOff environment words request members defect)
    (plain : ∀ member ∈ members, member.1 ∉ Config.specialKeys) :
    defect = .serviceNameNoText ∧ Config.firstRefusal? members = none ∧
        request.serviceName = none ∧ Config.UnfitName members ∨
      defect = .outputNoObject ∧ Config.UnfitOutput members ∨
      (∃ fault, defect = .name fault) ∨ ∃ number, defect = .numberTooLong number := by
  have reflects {config : Config} (loaded : Config.ofMembers members = .ok config) :
      Config.Reflects members config :=
    Config.reflects_of_ofMembers plain loaded
  cases breaks with
  | notSettable refused | unfit refused =>
      obtain ⟨_, same⟩ := Config.firstRefusal?_of_plain plain refused
      cases same
  | unnamed loaded noName =>
      obtain ⟨unstated, noName⟩ := overridden_serviceName?_eq_none_iff.mp noName
      refine .inl ⟨rfl, ?_, unstated, (reflects loaded).serviceName?_eq_none_iff.mp noName⟩
      cases refused : Config.firstRefusal? members with
      | none => rfl
      | some error =>
          rw [← Config.ofMembers_eq_error_iff, loaded] at refused
          cases refused
  | kindUnknown loaded _ _ unknown =>
      rw [Config.hasUnknownKind, (reflects loaded).checked] at unknown
      cases unknown
  | unwritable loaded _ _ noObject =>
      exact .inr (.inl ⟨rfl, (reflects loaded).output_iff.mp noObject⟩)
  | unshown | unencodable | unannounced => exact .inr (.inr (.inl ⟨_, rfl⟩))
  | unreportable | unchecked => exact .inr (.inr (.inr ⟨_, rfl⟩))

theorem breaksOff_of_unfitName (plain : ∀ member ∈ members, member.1 ∉ Config.specialKeys)
    (settable : Config.firstRefusal? members = none) (unstated : request.serviceName = none)
    (unfit : Config.UnfitName members) :
    BreaksOff environment words request members .serviceNameNoText := by
  cases loaded : Config.ofMembers members with
  | error error =>
      rw [Config.ofMembers_eq_error_iff, settable] at loaded
      cases loaded
  | ok config =>
      have reflects := Config.reflects_of_ofMembers plain loaded
      exact .unnamed loaded (overridden_serviceName?_eq_none_iff.mpr
        ⟨unstated, reflects.serviceName?_eq_none_iff.mpr unfit⟩)

/--
When a run breaks off that loads its options from an object, and when it reports that object. If no
member is special, a run breaks off whenever the name of the service is no text, and otherwise only
if the output is no object, a name or text has no bytes or is too long, or a number is too long.
-/
theorem ending_of_loadsObject (loads : LoadsObject environment words request members) :
    let ending := (run environment words).ending
    (∀ defect, ending = .error (.defect defect) ↔
      BreaksOff environment words request members defect) ∧
    (∀ error, ending = .error (.usage error) ↔
      ∃ invalid, Config.firstRefusal? members = some (.invalidChoice invalid) ∧
        error = .configInvalid invalid) ∧
    ((∀ member ∈ members, member.1 ∉ Config.specialKeys) →
      (ending = .error (.defect .serviceNameNoText) ↔
        Config.firstRefusal? members = none ∧ request.serviceName = none ∧
          Config.UnfitName members) ∧
      ∀ defect, ending = .error (.defect defect) →
        defect = .serviceNameNoText ∨ defect = .outputNoObject ∧ Config.UnfitOutput members ∨
          (∃ fault, defect = .name fault) ∨ ∃ number, defect = .numberTooLong number) := by
  have breaks (defect : Defect) : (run environment words).ending = .error (.defect defect) ↔
      BreaksOff environment words request members defect := by
    refine ⟨fun ended => ?_, fun breaks => breaks.ending_run loads⟩
    rw [ending_run loads.requested, reportedEnding_defect_iff] at ended
    rcases ended with ended | ⟨failure, command, failed, wanted, unfit, rfl⟩
    · exact breaksOff_of_perform loads ended
    · exact .unannounced failed wanted unfit
  refine ⟨breaks, fun error => ?_, fun plain => ⟨⟨fun ended => ?_, ?_⟩, fun defect ended => ?_⟩⟩
  · rw [ending_run loads.requested, reportedEnding_usage_iff, perform_usage_iff,
      loads.configOfRequest_error_iff]
    constructor
    · rintro ⟨refusal, refused, stopped⟩
      cases refusal with
      | invalidChoice invalid =>
          cases stopped
          exact ⟨invalid, refused, rfl⟩
      | notSettable key => cases stopped
      | unfitValue key => cases stopped
    · rintro ⟨invalid, refused, rfl⟩
      exact ⟨_, refused, rfl⟩
  · simpa using ((breaks _).mp ended).cases_of_plain plain
  · rintro ⟨settable, unstated, unfit⟩
    exact (breaks _).mpr (breaksOff_of_unfitName plain settable unstated unfit)
  · exact (((breaks defect).mp ended).cases_of_plain plain).imp_left And.left

def numberedMembers : List (String × Json) := [("service_name", .integer 5)]

def numbered : Environment where
  workingDirectory := []
  assignments := []
  files :=
    { limits := .usual
      entries :=
        [(["s"], .file (bytesOf "type Query \x7b f: Int \x7d")),
          (["c"], .file (bytesOf "\x7b\"service_name\": 5\x7d"))] }

def numberedRequest : Request where
  config := some ["c"]
  serviceName := none
  markerSelection := none
  isVerbose := false
  schema := ["s"]
  target := ["o"]

/-- The name is looked at where it is used, and nothing reports that it is no text. -/
theorem ending_numbered :
    LoadsObject numbered ["s", "o", "-c", "c"] numberedRequest numberedMembers ∧
      (∀ member ∈ numberedMembers, member.1 ∉ Config.specialKeys) ∧
      (run numbered ["s", "o", "-c", "c"]).ending = .error (.defect .serviceNameNoText) := by
  have loads : LoadsObject numbered ["s", "o", "-c", "c"] numberedRequest numberedMembers :=
    { requested := by decide
      loaded := ⟨_, "\x7b\"service_name\": 5\x7d", rfl, by decide, rfl⟩ }
  have plain : ∀ member ∈ numberedMembers, member.1 ∉ Config.specialKeys := by
    simp [numberedMembers, Config.specialKeys]
  have unfit : Config.UnfitName numberedMembers := ⟨.integer 5, rfl, fun _ => nofun⟩
  exact ⟨loads, plain, ((ending_of_loadsObject loads).2.2 plain).1.mpr ⟨rfl, rfl, unfit⟩⟩

end FederationSplit.CommandLine
