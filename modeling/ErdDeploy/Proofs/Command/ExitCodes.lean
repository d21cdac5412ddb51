import ErdDeploy.Command.Rendering
import ErdDeploy.Proofs.Command.Printing
import ErdDeploy.Proofs.Deployment.OfflineRun
import ErdDeploy.Web.Script

/-!
What the exit code of a deployment tells.

A deployment comes to a run with a summary in two ways (`Command.Deploys`): a dry run asks nobody,
and any other run is had with the endpoint of a profile. If the console shows the summary, the exit
code after a run that is not dry is zero exactly if nothing failed, and one otherwise. After a dry
run it is zero in any case, also if the model has mistakes that make its items fail
(`Command.exit_code_tells`). A console that refuses an item of the summary leaves no exit code.
-/

namespace ErdDeploy

/-! ## Summaries -/

/-- No item of a summary failed. -/
def Summary.Unfailed (summary : Summary) : Prop :=
  ∀ report ∈ summary.reports, ∀ item ∈ report.items, item.outcome ≠ .failed

theorem Summary.dryRun_withStage (summary : Summary) (stage : StageResult) :
    (summary.withStage stage).dryRun = summary.dryRun := by
  unfold withStage
  cases stage.report.kind <;> rfl

theorem runStages_dryRun {σ : Type} {access : Access σ} {settings : SchemaSettings} {m : Model}
    {stages : List Stage} {start summary : Summary} {state : σ}
    (result : (runStages access settings m stages start state).result = .ok summary) :
    summary.dryRun = start.dryRun := by
  induction stages generalizing start state with
  | nil => exact congrArg Summary.dryRun (Except.ok.inj result).symm
  | cons stage stages ih =>
      rcases staged : (stage.run access settings start.registry.optionSets m state).result
        with error | made
      · simp only [runStages, staged] at result
        cases result
      · simp only [runStages, staged] at result
        exact (ih result).trans (start.dryRun_withStage made)

/-- The summary of a run tells whether the run was dry. -/
theorem Model.deploy_dryRun {σ : Type} {m : Model} {client : Option (Client σ)}
    {settings : SchemaSettings} {dryRun : Bool} {state : σ} {summary : Summary}
    (result : (m.deploy client settings dryRun state).result = .ok summary) :
    summary.dryRun = dryRun := by
  unfold deploy at result
  split at result
  · cases result
  · exact runStages_dryRun result

/-! ## Endings -/

namespace Command

theorem ending_ofRun {σ : Type} (console : Console) (run : Performed σ RunError Summary) :
    (ofRun console run).ending =
      match run.result with
      | .error error => .crash (.run error)
      | .ok summary =>
        (console.firstRefusal? (resultItems console.escape summary)).elim
          (.exit (exitCode summary)) fun refusal => .crash (.refusal refusal) := by
  unfold ofRun
  cases run.result <;> simp

/-! ## Runs -/

section

variable {σ τ : Type} [Reckoning τ] (workspace : Workspace) (console : Console)
  (options : GlobalOptions) (transport : Transport σ τ) (source : String)
  (profile : Option String) (world : σ)

/-- The run of a deployment, dry or not: its model and its summary. Nothing that is shown before
it is refused. -/
inductive Deploys : (isDryRun : Bool) → Model → Summary → Prop
  | dry {settings : SchemaSettings} {m : Model} {summary : Summary} :
      loadSettings workspace options.config = .ok settings →
      Model.ofFile workspace (.ofText source) settings.naming false = .ok m →
      console.firstRefusal? (diagnosticPreamble console.escape m) = none →
      (m.deploy (σ := Unit) none settings true ()).result = .ok summary →
      Deploys true m summary
  | real {config : Config} {name : String} {selected : Profile} {m : Model}
      {endpoint : Endpoint} {log : List LogEntry} {summary : Summary} :
      Config.load workspace (nonempty? options.config) = .ok config →
      config.select workspace profile options.variablePrefix = .ok (name, selected) →
      Model.ofFile workspace (.ofText source) config.schema.naming false = .ok m →
      console.firstRefusal? (diagnosticPreamble console.escape m) = none →
      console.firstRefusal? [profileHeading name] = none →
      selected.endpoint workspace options.variablePrefix = .ok (endpoint, log) →
      (m.deploy (some (endpoint.client transport)) config.schema false ⟨world, .empty⟩).result =
        .ok summary →
      Deploys false m summary

end

section

variable {σ τ : Type} [Reckoning τ] {workspace : Workspace} {console : Console}
  {options : GlobalOptions} {transport : Transport σ τ} {source : String}
  {profile : Option String} {world : σ} {isDryRun : Bool} {m : Model} {summary : Summary}

/-- The summary of a deployment tells whether it was dry. -/
theorem Deploys.dryRun
    (deploys : Deploys workspace console options transport source profile world isDryRun m
      summary) :
    summary.dryRun = isDryRun := by
  cases deploys with
  | dry _ _ _ result => exact Model.deploy_dryRun result
  | real _ _ _ _ _ _ result => exact Model.deploy_dryRun result

/-- A deployment with a run ends in the exit code of its summary, once the summary is shown. -/
theorem Deploys.ending
    (deploys : Deploys workspace console options transport source profile world isDryRun m
      summary) :
    (execute workspace console options transport (.deploy source profile isDryRun)
        world).1.ending =
      (console.firstRefusal? (resultItems console.escape summary)).elim
        (.exit (exitCode summary)) fun refusal => .crash (.refusal refusal) := by
  cases deploys with
  | dry loaded read announced result =>
      simp [execute, deploySource, prepare, loaded, Except.mapError, Except.map, read, showFirst,
        Console.firstRefusal?_append, announced, deployModel, ending_ofRun, result]
  | real loaded selected read announced headed entered result =>
      simp [execute, deploySource, prepare, loaded, selected, read, showFirst,
        Console.firstRefusal?_append, announced, deployModel, headed, deployTo, entered,
        ending_ofRun, result]

/-- What fails in a dry run are the mistakes in the model. -/
theorem Deploys.unfailed_iff
    (deploys : Deploys workspace console options transport source profile world true m summary) :
    summary.Unfailed ↔ m.IsDraftable := by
  cases deploys with
  | @dry settings _ _ loaded read announced result =>
      rw [m.deploy_without_client settings ()] at result
      cases result
      exact Model.drafted_iff

theorem exitCode_eq_zero_iff : exitCode summary = 0 ↔ summary.dryRun = true ∨ summary.Unfailed := by
  rw [exitCode, Summary.Unfailed, ← Summary.isSuccess_iff]
  cases summary.dryRun <;> cases summary.isSuccess <;> simp

theorem exitCode_eq_one_iff :
    exitCode summary = 1 ↔ ¬ (summary.dryRun = true ∨ summary.Unfailed) := by
  rw [← exitCode_eq_zero_iff, exitCode]
  split <;> simp

/-- A deployment with a run whose summary is shown ends in zero exactly if the run was dry or
nothing failed, and in one otherwise. In a dry run, what fails are the mistakes in the model, and
these the exit code does not tell. A summary that is not shown ends the command. -/
theorem exit_code_tells
    (deploys : Deploys workspace console options transport source profile world isDryRun m
      summary) :
    ((execute workspace console options transport (.deploy source profile isDryRun)
          world).1.ending = .exit 0 ↔
      console.firstRefusal? (resultItems console.escape summary) = none ∧
        (isDryRun = true ∨ summary.Unfailed)) ∧
    ((execute workspace console options transport (.deploy source profile isDryRun)
          world).1.ending = .exit 1 ↔
      console.firstRefusal? (resultItems console.escape summary) = none ∧
        ¬ (isDryRun = true ∨ summary.Unfailed)) ∧
    (∀ refusal,
      (execute workspace console options transport (.deploy source profile isDryRun)
          world).1.ending = .crash (.refusal refusal) ↔
        console.firstRefusal? (resultItems console.escape summary) = some refusal) ∧
    (isDryRun = true → (summary.Unfailed ↔ m.IsDraftable)) := by
  rw [deploys.ending, ← deploys.dryRun, ← exitCode_eq_zero_iff]
  refine ⟨?_, ?_, ?_, fun dry => ?_⟩
  · cases console.firstRefusal? (resultItems console.escape summary) <;> simp
  · rw [exitCode_eq_zero_iff, ← exitCode_eq_one_iff]
    cases console.firstRefusal? (resultItems console.escape summary) <;> simp
  · cases console.firstRefusal? (resultItems console.escape summary) <;> simp
  · rw [deploys.dryRun] at dry
    subst dry
    exact deploys.unfailed_iff

end

/-- A workspace with nothing but a source. -/
def sourceOnly (text : String) : Workspace where
  directory := "/"
  look path := .ok (if path = .ofText "s.erd" then
    some (.file (text.toList.map fun c => c.toNat.toUInt8)) else none)
  setting? _ := none

/-- A table without a key. -/
def keyless : String := "Table T \x7b\nname String\n\x7d"

theorem exists_deploys_keyless :
    ∃ m summary, Deploys (sourceOnly keyless) .plain {} (Script.transport (τ := Binary64)) "s.erd"
      none (.ofReplies [] (.zero false)) true m summary ∧
      Console.plain.firstRefusal? (resultItems Markup.escape summary) = none ∧
      ¬ m.IsDraftable := by
  have loaded : loadSettings (sourceOnly keyless) none = .ok {} := rfl
  -- Evaluated is whether there are keys and what is refused; the model and the summary are not
  -- written out.
  have evaluated : ((Model.ofFile (sourceOnly keyless) (.ofText "s.erd") (SchemaSettings.naming {})
      false).toOption.map fun m =>
        (Console.plain.firstRefusal? (diagnosticPreamble Markup.escape m),
          Console.plain.firstRefusal? (resultItems Markup.escape (m.drafted {})),
          m.creatableTables.all fun t => t.displayField.isOk)) = some (none, none, false) := by
    decide +kernel
  obtain ⟨m, read, all⟩ := exists_of_toOption_map evaluated
  obtain ⟨announced, rest⟩ := Prod.mk.inj all
  obtain ⟨told, unkeyed⟩ := Prod.mk.inj rest
  refine ⟨m, _, .dry loaded read announced (m.deploy_without_client {} ()), told,
    fun draftable => ?_⟩
  have keyed : (m.creatableTables.all fun t => t.displayField.isOk) = true := by
    refine List.all_eq_true.mpr fun t member => ?_
    obtain ⟨key, found⟩ := draftable.keyed t member
    rw [found]
    rfl
  exact absurd (keyed.symm.trans unkeyed) (by decide)

/-- The dry run of a table without a key: an item fails, and the exit code is zero. -/
theorem exit_code_of_keyless :
    ∃ m summary, Deploys (sourceOnly keyless) .plain {} (Script.transport (τ := Binary64)) "s.erd"
        none (.ofReplies [] (.zero false)) true m summary ∧
      (execute (sourceOnly keyless) .plain {} (Script.transport (τ := Binary64))
        (.deploy "s.erd" none true) (.ofReplies [] (.zero false))).1.ending = .exit 0 ∧
      ¬ summary.Unfailed := by
  obtain ⟨m, summary, deploys, told, mistaken⟩ := exists_deploys_keyless
  obtain ⟨zero, -, -, unfailed⟩ := exit_code_tells deploys
  exact ⟨m, summary, deploys, zero.mpr ⟨told, Or.inl rfl⟩,
    fun fine => mistaken ((unfailed rfl).mp fine)⟩

/-- The exit code does not tell whether something failed. -/
theorem not_exit_code_tells_failures :
    ¬ ∀ (workspace : Workspace) (options : GlobalOptions)
        (transport : Transport (Script Binary64) Binary64) (source : String)
        (profile : Option String) (world : Script Binary64) (isDryRun : Bool) (m : Model)
        (summary : Summary),
      Deploys workspace .plain options transport source profile world isDryRun m summary →
      Console.plain.firstRefusal? (resultItems Markup.escape summary) = none →
      ((execute workspace .plain options transport (.deploy source profile isDryRun)
          world).1.ending = .exit 0 ↔ summary.Unfailed) := by
  intro claim
  obtain ⟨m, summary, deploys, told, mistaken⟩ := exists_deploys_keyless
  have ended := claim _ _ _ _ _ _ _ _ _ deploys told
  have zero : exitCode summary = 0 := exitCode_eq_zero_iff.mpr (Or.inl deploys.dryRun)
  have shown : Console.plain.firstRefusal? (resultItems Console.plain.escape summary) = none :=
    told
  rw [deploys.ending, shown, zero] at ended
  exact mistaken (deploys.unfailed_iff.mp (ended.mp rfl))

end Command

end ErdDeploy
