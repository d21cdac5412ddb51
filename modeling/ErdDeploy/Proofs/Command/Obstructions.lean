import ErdDeploy.Proofs.Command.ExitCodes
import ErdDeploy.Proofs.Data.Results

/-!
What ends a command without an exit code.

A command that needs no remote concludes from what it reads, which is the configuration and the
source (`Command.exists_conclusion`). Where it is stopped by a finding, it reports it and ends in
one; where nothing stops it, it ends in zero. What is no finding is told by what stands at the two
paths: a folder, a path that cannot be looked at, TOML that is too deep, or TOML with another value
where a table belongs (`Config.Obstructed`, `SourceObstructed`). These, and a console that refuses
what is shown, are all that ends the command without a code (`Command.crashes_iff_obstructed`).
-/

namespace ErdDeploy

/-- A value is a table. -/
def Value.IsTable (value : Value) : Prop :=
  ∃ members, value = .record members

/-! ## Configurations -/

namespace Config

/-- A part is a value or a finding, unless it is no table. -/
theorem blocked_readPart {α : Type} {part : ConfigPart} {ofMembers : Check.Members → Checked α}
    {value : Value} :
    Blocked ConfigError.isFinding (readPart part ofMembers value) ↔ ¬ value.IsTable := by
  cases value with
  | record members =>
      refine iff_of_false ?_ fun other => other ⟨members, rfl⟩
      cases checked : ofMembers members with
      | valid made => simp [readPart, checked, orInvalid]
      | invalid issues => simp [readPart, checked, orInvalid, ConfigError.isFinding]
  | _ => simp [readPart, ConfigError.isFinding, Value.IsTable]

/-- The first of some profiles that is not valid is no table. -/
inductive ProfilesObstructed : List (String × Value) → Prop
  | here {name : String} {value : Value} {rest : List (String × Value)} :
      ¬ value.IsTable → ProfilesObstructed ((name, value) :: rest)
  | later {name : String} {value : Value} {rest : List (String × Value)} {profile : Profile} :
      readPart .profile Profile.ofMembers value = .ok profile → ProfilesObstructed rest →
      ProfilesObstructed ((name, value) :: rest)

theorem blocked_readProfiles {profiles : List (String × Value)} :
    Blocked ConfigError.isFinding (readProfiles profiles) ↔ ProfilesObstructed profiles := by
  induction profiles with
  | nil => exact iff_of_false not_blocked_ok nofun
  | cons entry rest ih =>
      obtain ⟨name, value⟩ := entry
      rw [readProfiles, blocked_bind, blocked_readPart]
      simp only [blocked_bind, ih]
      constructor
      · rintro (other | ⟨profile, valid, obstructed | ⟨_, _, blocked⟩⟩)
        · exact .here other
        · exact .later valid obstructed
        · exact absurd blocked not_blocked_ok
      · rintro (other | ⟨valid, obstructed⟩)
        · exact Or.inl other
        · exact Or.inr ⟨_, valid, Or.inl obstructed⟩

/-- What a document has under a name where a table belongs; none is an empty one. -/
def tableAt (members : Toml.Members) (name : String) : Value :=
  (members.lookup name).getD (.record [])

/-- A document has another value where a table belongs, and what is read before it is valid. -/
inductive Shapeless (members : Toml.Members) : Prop
  | profiles : ¬ (tableAt members "profiles").IsTable → Shapeless members
  | profile {profiles : List (String × Value)} :
      tableAt members "profiles" = .record profiles → ProfilesObstructed profiles →
      Shapeless members
  | schema {profiles : List (String × Value)} {valid : List (String × Profile)} :
      tableAt members "profiles" = .record profiles → readProfiles profiles = .ok valid →
      ¬ (tableAt members "schema").IsTable → Shapeless members

/-- The profiles are read first, then the settings. -/
theorem blocked_ofMembers_of_profiles {members : Toml.Members} {profiles : List (String × Value)}
    (table : tableAt members "profiles" = .record profiles) :
    Blocked ConfigError.isFinding (ofMembers members) ↔
      ProfilesObstructed profiles ∨
        ∃ valid, readProfiles profiles = .ok valid ∧ ¬ (tableAt members "schema").IsTable := by
  unfold tableAt at table ⊢
  unfold ofMembers
  rw [table, blocked_bind, blocked_readProfiles]
  simp only [blocked_bind, blocked_readPart]
  refine or_congr_right (exists_congr fun valid => and_congr_right fun read => ?_)
  exact or_iff_left fun ⟨_, _, blocked⟩ => not_blocked_ok blocked

theorem blocked_ofMembers_of_not_table {members : Toml.Members}
    (other : ¬ (tableAt members "profiles").IsTable) :
    Blocked ConfigError.isFinding (ofMembers members) := by
  unfold tableAt at other
  unfold ofMembers
  split
  · next profiles table => exact absurd ⟨profiles, table⟩ other
  · exact ⟨_, rfl, rfl⟩

theorem blocked_ofMembers {members : Toml.Members} :
    Blocked ConfigError.isFinding (ofMembers members) ↔ Shapeless members := by
  by_cases isTable : (tableAt members "profiles").IsTable
  · obtain ⟨profiles, table⟩ := isTable
    rw [blocked_ofMembers_of_profiles table]
    constructor
    · rintro (obstructed | ⟨valid, read, other⟩)
      · exact .profile table obstructed
      · exact .schema table read other
    · intro shapeless
      cases shapeless with
      | profiles other => exact absurd ⟨profiles, table⟩ other
      | profile table' obstructed =>
          cases table.symm.trans table'
          exact Or.inl obstructed
      | schema table' read other =>
          cases table.symm.trans table'
          exact Or.inr ⟨_, read, other⟩
  · exact iff_of_true (blocked_ofMembers_of_not_table isTable) (.profiles isTable)

/-- Some bytes are a document that no command expects. -/
inductive BytesObstructed (bytes : List UInt8) : Prop
  | tooDeep {text : List Char} : Utf8.decode bytes = .ok text →
      Toml.read text = .error .tooDeep → BytesObstructed bytes
  | shapeless {text : List Char} {members : Toml.Members} : Utf8.decode bytes = .ok text →
      Toml.read text = .ok members → Shapeless members → BytesObstructed bytes

theorem blocked_ofBytes {path : FilePath} {bytes : List UInt8} :
    Blocked ConfigError.isFinding (ofBytes path bytes) ↔ BytesObstructed bytes := by
  constructor
  · intro blocked
    rcases decoded : Utf8.decode bytes with fault | text
    · simp [ofBytes, decoded, ConfigError.isFinding] at blocked
    rcases read : Toml.read text with failure | members
    · cases failure with
      | tooDeep => exact .tooDeep decoded read
      | _ => simp [ofBytes, decoded, read, errorOfFailure, ConfigError.isFinding] at blocked
    · simp only [ofBytes, decoded, read] at blocked
      exact .shapeless decoded read (blocked_ofMembers.mp blocked)
  · intro obstructed
    cases obstructed with
    | tooDeep decoded read => simp [ofBytes, decoded, read, errorOfFailure, ConfigError.isFinding]
    | shapeless decoded read shapeless =>
        simp only [ofBytes, decoded, read]
        exact blocked_ofMembers.mpr shapeless

/-- What stands at the path of a configuration is nothing that a command expects. -/
inductive Obstructed (workspace : Workspace) (named : Option String) : Prop
  | notReached {cause : LookError} :
      workspace.look (path named) = .error cause → Obstructed workspace named
  | folder : workspace.look (path named) = .ok (some .folder) → Obstructed workspace named
  | file {bytes : List UInt8} : workspace.look (path named) = .ok (some (.file bytes)) →
      BytesObstructed bytes → Obstructed workspace named

theorem blocked_load {workspace : Workspace} {named : Option String} :
    Blocked ConfigError.isFinding (load workspace named) ↔ Obstructed workspace named := by
  constructor
  · intro blocked
    rcases seen : workspace.look (path named) with cause | _ | bytes | _
    · exact .notReached seen
    · simp [load, seen, ConfigError.isFinding] at blocked
    · simp only [load, seen] at blocked
      exact .file seen (blocked_ofBytes.mp blocked)
    · exact .folder seen
  · intro obstructed
    cases obstructed with
    | notReached seen => simp [load, seen, ConfigError.isFinding]
    | folder seen => simp [load, seen, ConfigError.isFinding]
    | file seen obstructed =>
        simp only [load, seen]
        exact blocked_ofBytes.mpr obstructed

end Config

/-- The settings of a source are blocked by the configuration. -/
theorem Command.blocked_loadSettings {workspace : Workspace} {config : Option String} :
    Blocked ConfigError.isFinding (loadSettings workspace config) ↔
      Config.Obstructed workspace (nonempty? config) := by
  by_cases absent : nonempty? config = none ∧ workspace.look (Config.path none) = .ok none
  · obtain ⟨unnamed, seen⟩ := absent
    rw [← Config.blocked_load]
    simp [loadSettings, Config.load, unnamed, seen, ConfigError.isFinding]
  · have loaded : loadSettings workspace config =
        (Config.load workspace (nonempty? config)).map Config.schema := by
      -- The settings are those of the configuration, unless none is named and none is there.
      simp only [loadSettings]
      split
      · next unnamed seen => exact absurd ⟨unnamed, seen⟩ absent
      · rfl
    rw [loaded, blocked_map, Config.blocked_load]

/-! ## Sources -/

/-- What stands at the path of a source is no file, nor is it absent. -/
def SourceObstructed (workspace : Workspace) (path : FilePath) : Prop :=
  (∃ cause, workspace.look path = .error cause) ∨ workspace.look path = .ok (some .folder)

theorem blocked_sourceText {workspace : Workspace} {path : FilePath} :
    Blocked SourceFileError.isFinding (sourceText workspace path) ↔
      SourceObstructed workspace path := by
  unfold SourceObstructed sourceText
  rcases workspace.look path with cause | _ | bytes | _
  · exact iff_of_true ⟨_, rfl, rfl⟩ (Or.inl ⟨cause, rfl⟩)
  · simp [SourceFileError.isFinding]
  · rcases decoded : Utf8.decode bytes with fault | text
    · simp [decoded, SourceFileError.isFinding]
    · simp [decoded]
  · simp [SourceFileError.isFinding]

/-- What a source says is never in the way: errors in it are findings. -/
theorem blocked_ofFile {workspace : Workspace} {path : FilePath} {rules : NamingRules}
    {strict : Bool} :
    Blocked SourceFileError.isFinding (Model.ofFile workspace path rules strict) ↔
      SourceObstructed workspace path := by
  rw [Model.ofFile, blocked_bind, blocked_sourceText]
  refine or_iff_left ?_
  rintro ⟨text, -, blocked⟩
  rcases read : Model.ofText rules strict text with cause | m
  · simp [read, Except.mapError, SourceFileError.isFinding] at blocked
  · simp [read, Except.mapError] at blocked

/-! ## Commands -/

namespace Command

/-- A command needs no remote. -/
def IsLocal : Command → Prop
  | .deploy _ _ isDryRun => isDryRun = true
  | _ => True

/-- The source that a command reads, and whether it is strict about it. -/
def source? : Command → Option (String × Bool)
  | .parse source isStrict => some (source, isStrict)
  | .deploy source _ _ => some (source, false)
  | .profiles => none

/-- What a command reads before it does anything. -/
def readAll (workspace : Workspace) (options : GlobalOptions) (command : Command) :
    Except CommandFailure Unit :=
  match command.source? with
  | none => ((Config.load workspace (nonempty? options.config)).mapError .config).map fun _ => ()
  | some (source, strict) => do
    let settings ← (loadSettings workspace options.config).mapError .config
    ((Model.ofFile workspace (.ofText source) settings.naming strict).mapError .source).map
      fun _ => ()

/-- A command comes upon a configuration or a source that it does not expect. -/
inductive Obstructed (workspace : Workspace) (options : GlobalOptions) (command : Command) : Prop
  | config : Config.Obstructed workspace (nonempty? options.config) →
      Obstructed workspace options command
  | source {source : String} {strict : Bool} {settings : SchemaSettings} :
      command.source? = some (source, strict) →
      loadSettings workspace options.config = .ok settings →
      SourceObstructed workspace (.ofText source) → Obstructed workspace options command

theorem blocked_readAll {workspace : Workspace} {options : GlobalOptions} {command : Command} :
    Blocked CommandFailure.isFinding (readAll workspace options command) ↔
      command.Obstructed workspace options := by
  have ofConfig : ∀ error, CommandFailure.isFinding (.config error) = error.isFinding :=
    fun _ => rfl
  have ofSource : ∀ error, CommandFailure.isFinding (.source error) = error.isFinding :=
    fun _ => rfl
  unfold readAll
  rcases reads : command.source? with _ | ⟨source, strict⟩
  · simp only [blocked_map, blocked_mapError ofConfig, Config.blocked_load]
    constructor
    · exact .config
    · intro obstructed
      cases obstructed with
      | config obstructed => exact obstructed
      | source reads' _ _ => cases reads.symm.trans reads'
  · simp only [blocked_bind, blocked_map, blocked_mapError ofConfig, blocked_mapError ofSource,
      blocked_loadSettings, blocked_ofFile, mapError_eq_ok_iff]
    constructor
    · rintro (obstructed | ⟨settings, loaded, obstructed⟩)
      · exact .config obstructed
      · exact .source reads loaded obstructed
    · intro obstructed
      cases obstructed with
      | config obstructed => exact Or.inl obstructed
      | source reads' loaded obstructed =>
          cases reads.symm.trans reads'
          exact Or.inr ⟨_, loaded, obstructed⟩

theorem readAll_of_unset {workspace : Workspace} {options : GlobalOptions} {command : Command}
    {source : String} {strict : Bool} {error : ConfigError}
    (reads : command.source? = some (source, strict))
    (loaded : loadSettings workspace options.config = .error error) :
    command.readAll workspace options = .error (.config error) := by
  simp [readAll, reads, loaded, Except.mapError, Bind.bind, Except.bind]

theorem readAll_of_error {workspace : Workspace} {options : GlobalOptions} {command : Command}
    {source : String} {strict : Bool} {settings : SchemaSettings} {error : SourceFileError}
    (reads : command.source? = some (source, strict))
    (loaded : loadSettings workspace options.config = .ok settings)
    (read : Model.ofFile workspace (.ofText source) settings.naming strict = .error error) :
    command.readAll workspace options = .error (.source error) := by
  simp [readAll, reads, loaded, read, Except.mapError, Bind.bind, Except.bind, Except.map]

theorem readAll_of_ok {workspace : Workspace} {options : GlobalOptions} {command : Command}
    {source : String} {strict : Bool} {settings : SchemaSettings} {m : Model}
    (reads : command.source? = some (source, strict))
    (loaded : loadSettings workspace options.config = .ok settings)
    (read : Model.ofFile workspace (.ofText source) settings.naming strict = .ok m) :
    command.readAll workspace options = .ok () := by
  simp [readAll, reads, loaded, read, Except.mapError, Bind.bind, Except.bind, Except.map]

/-- What a command that needs no remote does with what it has read: it ends in zero, it reports a
finding and ends in one, or it ends without an exit code. -/
inductive Concludes (console : Console) : Except CommandFailure Unit → Transcript → Prop
  | done (items : List ConsoleItem) : Concludes console (.ok ()) (.ofItems console items (.exit 0))
  | finding {failure : CommandFailure} (items : List ConsoleItem) : failure.isFinding = true →
      Concludes console (.error failure) (.ofItems console items (.exit 1))
  | unexpected {failure : CommandFailure} : failure.isFinding = false →
      Concludes console (.error failure) ⟨[], .crash (.input failure)⟩

section

variable (console : Console)

theorem concludes_ofFailure (failure : CommandFailure) :
    Concludes console (.error failure) (.ofFailure console failure) := by
  unfold Transcript.ofFailure
  split
  · next finding => exact .finding _ finding
  · next unexpected => exact .unexpected (Bool.eq_false_iff.mpr unexpected)

/-- Errors in a source are shown in their own way, but they are findings, too. -/
theorem concludes_refused (error : SourceFileError) :
    Concludes console (.error (.source error)) (refused console error) := by
  unfold refused
  split
  · exact .finding _ rfl
  · exact concludes_ofFailure console _

/-- A dry run has a summary, and the exit code zero. -/
theorem exists_ofRun_offline (m : Model) (settings : SchemaSettings) :
    ∃ items, ofRun console (m.deploy (σ := Unit) none settings true ()) =
      .ofItems console items (.exit 0) := by
  have zero : exitCode (m.drafted settings) = 0 := exitCode_eq_zero_iff.mpr (Or.inl rfl)
  refine ⟨ConsoleItem.ofLog (m.deploy (σ := Unit) none settings true ()).log ++
    resultItems console.escape (m.drafted settings), ?_⟩
  simp only [ofRun, m.deploy_without_client settings (), zero, Transcript.ofItems,
    Transcript.after_append]

variable {σ τ : Type} [Reckoning τ] (workspace : Workspace) (options : GlobalOptions)
  (transport : Transport σ τ) (world : σ) {command : Command}

/-- A command that needs no remote concludes from what it has read. What it shows before are log
entries. -/
theorem exists_conclusion (isLocal : command.IsLocal) :
    ∃ log conclusion, Concludes console (command.readAll workspace options) conclusion ∧
      (execute workspace console options transport command world).1 =
        (conclusion.after console (ConsoleItem.ofLog log)).shown options.isVerbose := by
  cases command with
  | parse source strict =>
      simp only [execute, showSource]
      rcases loaded : loadSettings workspace options.config with error | settings
      · rw [readAll_of_unset rfl loaded]
        exact ⟨[], _, concludes_ofFailure console (.config error), rfl⟩
      dsimp only
      rcases read : Model.ofFile workspace (.ofText source) settings.naming strict with error | m
      · rw [readAll_of_error rfl loaded read]
        exact ⟨_, _, concludes_refused console error, rfl⟩
      · rw [readAll_of_ok rfl loaded read]
        exact ⟨_, _, .done _, rfl⟩
  | deploy source profile isDryRun =>
      cases isLocal
      simp only [execute, deploySource, prepare, if_true]
      rcases loaded : loadSettings workspace options.config with error | settings
      · rw [readAll_of_unset rfl loaded]
        exact ⟨[], _, concludes_ofFailure console (.config error), rfl⟩
      simp only [Except.mapError, Except.map]
      rcases read : Model.ofFile workspace (.ofText source) settings.naming false with error | m
      · rw [readAll_of_error rfl loaded read]
        exact ⟨_, _, concludes_ofFailure console (.source error), rfl⟩
      · rw [readAll_of_ok rfl loaded read]
        obtain ⟨items, offline⟩ := exists_ofRun_offline console m settings
        refine ⟨Model.fileLog workspace (.ofText source) settings.naming false, _,
          .done (diagnosticPreamble console.escape m ++ items), ?_⟩
        simp only [showFirst, deployModel, offline, Transcript.after_append, Transcript.ofItems]
  | profiles =>
      simp only [execute, listProfiles, readAll, source?]
      rcases Config.load workspace (nonempty? options.config) with error | config
      · exact ⟨[], _, concludes_ofFailure console _, rfl⟩
      · exact ⟨[], _, .done _, rfl⟩

end

section

variable {σ τ : Type} [Reckoning τ] {workspace : Workspace} {console : Console}
  {options : GlobalOptions} {transport : Transport σ τ} {world : σ} {command : Command}

/-- A command that needs no remote ends without an exit code exactly if it comes upon a
configuration or a source that it does not expect, or if the console refuses something that it
shows. Otherwise it ends in zero or one. -/
theorem crashes_iff_obstructed (isLocal : command.IsLocal) :
    ((∃ failure, (execute workspace console options transport command world).1.ending =
        .crash (.input failure)) ↔
      command.Obstructed workspace options) ∧
    (∀ refusal, (execute workspace console options transport command world).1.ending =
        .crash (.refusal refusal) ↔
      console.firstRefusal? (printed workspace console options transport command world) =
        some refusal) ∧
    (¬ command.Obstructed workspace options →
      console.firstRefusal? (printed workspace console options transport command world) = none →
      (execute workspace console options transport command world).1.ending = .exit 0 ∨
        (execute workspace console options transport command world).1.ending = .exit 1) := by
  rw [ending_execute, ← blocked_readAll, printed]
  obtain ⟨log, conclusion, concludes, executed⟩ :=
    exists_conclusion console.patient workspace options transport world isLocal
  have ending : (execute workspace console.patient options transport command world).1.ending =
      conclusion.ending := by
    rw [executed, Transcript.ending_shown, Transcript.after_patient]
  have refused : console.firstRefusal?
      (execute workspace console.patient options transport command world).1.items =
        console.firstRefusal? conclusion.items := by
    rw [executed, Transcript.after_patient, Transcript.shown, Console.firstRefusal?_filter_isShown,
      Console.firstRefusal?_append, Console.firstRefusal?_ofLog, Option.none_or]
  rw [ending, refused]
  generalize command.readAll workspace options = result at concludes
  cases concludes with
  | done items =>
      rw [Transcript.ofItems_patient]
      cases console.firstRefusal? items <;> simp
  | finding items finding =>
      rw [Transcript.ofItems_patient]
      cases console.firstRefusal? items <;> simp [finding]
  | unexpected unexpected => simp [unexpected]

end

/-- A table with a field whose name is read as a closing tag. -/
def misread : String := "Table T \x7b\n[/x] Int\n\x7d"

/-- Such a name ends the command that shows it. -/
example : (execute (sourceOnly misread) .plain {} (Script.transport (τ := Binary64))
    (.parse "s.erd" false) (.ofReplies [] (.zero false))).1.ending =
      .crash (.refusal ⟨"the closing tag 'x' matches no open tag"⟩) := by
  decide +kernel

/-- A workspace with nothing but a folder. -/
def folderOnly : Workspace where
  directory := "/"
  look path := .ok (if path = .ofText "d" then some .folder else none)
  setting? _ := none

theorem obstructed_folder : Obstructed folderOnly {} (.parse "d" false) := by
  have loaded : loadSettings folderOnly none = .ok {} := rfl
  exact .source rfl loaded (Or.inr rfl)

/-- To show a folder ends without an exit code. -/
theorem crashes_at_folder :
    IsLocal (.parse "d" false) ∧
      ∃ failure, (execute folderOnly .plain {} (Script.transport (τ := Binary64))
        (.parse "d" false) (.ofReplies [] (.zero false))).1.ending = .crash (.input failure) := by
  have isLocal : IsLocal (.parse "d" false) := trivial
  exact ⟨isLocal, (crashes_iff_obstructed isLocal).1.mpr obstructed_folder⟩

/-- Not every command that needs no remote ends in zero or one. -/
theorem not_local_commands_exit :
    ¬ ∀ (workspace : Workspace) (options : GlobalOptions) (command : Command)
        (transport : Transport (Script Binary64) Binary64) (world : Script Binary64),
      command.IsLocal →
      (execute workspace .plain options transport command world).1.ending = .exit 0 ∨
        (execute workspace .plain options transport command world).1.ending = .exit 1 := by
  intro claim
  have crash : (execute folderOnly .plain {} (Script.transport (τ := Binary64)) (.parse "d" false)
      (.ofReplies [] (.zero false))).1.ending = .crash (.input (.source .isFolder)) := rfl
  have ended := claim folderOnly {} (.parse "d" false) Script.transport
    (.ofReplies [] (.zero false)) trivial
  rw [crash] at ended
  rcases ended with zero | one
  · cases zero
  · cases one

end Command

end ErdDeploy
