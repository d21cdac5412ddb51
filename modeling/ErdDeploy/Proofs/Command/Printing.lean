import ErdDeploy.Command.Execution

/-!
What a console that refuses something leaves of a command.

A patient console refuses nothing (`Console.patient`). On any other console a command shows what
it shows on the patient one, up to the first item that is refused, and ends there
(`Command.execute_eq_cutBy`). So what a command shows, and how it ends, has to be told for patient
consoles only.
-/

namespace ErdDeploy

namespace Console

/-- The console that escapes texts alike and refuses nothing. -/
def patient (console : Console) : Console :=
  { console with print := fun _ => .ok [] }

/-! ## Refusals -/

section

variable {console : Console}

@[simp] theorem escape_patient : console.patient.escape = console.escape :=
  rfl

theorem refusal?_patient (item : ConsoleItem) : console.patient.refusal? item = none := by
  cases item <;> rfl

/-- What is left out unless it is demanded is not refused: it is a log entry. -/
theorem refusal?_of_not_isShown {verbose : Bool} {item : ConsoleItem}
    (hidden : ¬ item.isShown verbose = true) : console.refusal? item = none := by
  cases item with
  | log entry => rfl
  | _ => exact absurd rfl hidden

@[simp] theorem firstRefusal?_nil : console.firstRefusal? [] = none :=
  rfl

theorem firstRefusal?_append (front back : List ConsoleItem) :
    console.firstRefusal? (front ++ back) =
      (console.firstRefusal? front).or (console.firstRefusal? back) :=
  List.findSome?_append

@[simp] theorem firstRefusal?_patient (items : List ConsoleItem) :
    console.patient.firstRefusal? items = none :=
  List.findSome?_eq_none_iff.mpr fun item _ => refusal?_patient item

@[simp] theorem firstRefusal?_ofLog (log : List LogEntry) :
    console.firstRefusal? (ConsoleItem.ofLog log) = none := by
  refine List.findSome?_eq_none_iff.mpr fun item member => ?_
  obtain ⟨entry, -, rfl⟩ := List.mem_map.mp member
  rfl

/-! ## What is shown -/

theorem shown_append_of_none {front : List ConsoleItem} (back : List ConsoleItem)
    (fine : console.firstRefusal? front = none) :
    console.shown (front ++ back) = front ++ console.shown back :=
  List.takeWhile_append_of_pos fun item member =>
    Option.isNone_iff_eq_none.mpr (List.findSome?_eq_none_iff.mp fine item member)

theorem shown_append_of_some {front : List ConsoleItem} {refusal : Refusal}
    (back : List ConsoleItem) (refused : console.firstRefusal? front = some refusal) :
    console.shown (front ++ back) = console.shown front := by
  induction front with
  | nil => cases refused
  | cons item front ih =>
      simp only [shown, List.cons_append, List.takeWhile_cons]
      rcases first : console.refusal? item with _ | cause
      · simp only [firstRefusal?, List.findSome?_cons, first] at refused
        exact congrArg _ (ih refused)
      · rfl

end

/-! ## What is left out -/

section

variable (console : Console) (verbose : Bool) (items : List ConsoleItem)

theorem firstRefusal?_filter_isShown :
    console.firstRefusal? (items.filter (ConsoleItem.isShown verbose)) =
      console.firstRefusal? items := by
  induction items with
  | nil => rfl
  | cons item items ih =>
      by_cases isShown : item.isShown verbose = true
      · simp only [List.filter_cons_of_pos isShown, firstRefusal?, List.findSome?_cons] at ih ⊢
        rw [ih]
      · rw [List.filter_cons_of_neg isShown, ih, firstRefusal?, firstRefusal?,
          List.findSome?_cons, refusal?_of_not_isShown isShown]

theorem shown_filter_isShown :
    console.shown (items.filter (ConsoleItem.isShown verbose)) =
      (console.shown items).filter (ConsoleItem.isShown verbose) := by
  induction items with
  | nil => rfl
  | cons item items ih =>
      simp only [shown] at ih ⊢
      by_cases isShown : item.isShown verbose = true
      · rw [List.filter_cons_of_pos isShown, List.takeWhile_cons, List.takeWhile_cons]
        split
        · rw [List.filter_cons_of_pos isShown, ih]
        · rfl
      · rw [List.filter_cons_of_neg isShown, ih, List.takeWhile_cons,
          refusal?_of_not_isShown isShown, Option.isNone_none, if_pos rfl,
          List.filter_cons_of_neg isShown]

end

end Console

/-! ## Transcripts -/

namespace Transcript

/-- What a console leaves of what a command would show and of how it would end. -/
def cutBy (console : Console) (transcript : Transcript) : Transcript :=
  ofItems console transcript.items transcript.ending

section

variable {console : Console} {items : List ConsoleItem} {transcript : Transcript}

theorem after_of_none (fine : console.firstRefusal? items = none) :
    transcript.after console items = ⟨items ++ transcript.items, transcript.ending⟩ := by
  simp only [after, fine]

theorem after_of_some {refusal : Refusal} (refused : console.firstRefusal? items = some refusal) :
    transcript.after console items = ⟨console.shown items, .crash (.refusal refusal)⟩ := by
  simp only [after, refused]

/-- A command ends as it would without the items in front, unless one of them is refused. -/
@[simp] theorem ending_after :
    (transcript.after console items).ending =
      (console.firstRefusal? items).elim transcript.ending fun refusal =>
        .crash (.refusal refusal) := by
  rcases first : console.firstRefusal? items with _ | refusal
  · rw [after_of_none first]
    rfl
  · rw [after_of_some first]
    rfl

@[simp] theorem ending_ofItems {ending : Ending} :
    (ofItems console items ending).ending =
      (console.firstRefusal? items).elim ending fun refusal => .crash (.refusal refusal) :=
  ending_after

theorem ending_cutBy :
    (transcript.cutBy console).ending =
      (console.firstRefusal? transcript.items).elim transcript.ending fun refusal =>
        .crash (.refusal refusal) :=
  ending_ofItems

@[simp] theorem ending_shown (verbose : Bool) :
    (transcript.shown verbose).ending = transcript.ending :=
  rfl

theorem after_patient :
    transcript.after console.patient items = ⟨items ++ transcript.items, transcript.ending⟩ :=
  after_of_none (Console.firstRefusal?_patient items)

theorem ofItems_patient {ending : Ending} :
    ofItems console.patient items ending = ⟨items, ending⟩ := by
  rw [ofItems, after_patient, List.append_nil]

theorem after_append (front back : List ConsoleItem) :
    transcript.after console (front ++ back) =
      (transcript.after console back).after console front := by
  rcases first : console.firstRefusal? front with _ | refusal
  · have both : console.firstRefusal? (front ++ back) = console.firstRefusal? back := by
      rw [Console.firstRefusal?_append, first, Option.none_or]
    rw [after_of_none first]
    rcases second : console.firstRefusal? back with _ | refusal
    · rw [after_of_none second, after_of_none (both.trans second), List.append_assoc]
    · rw [after_of_some second, after_of_some (both.trans second),
        Console.shown_append_of_none back first]
  · have both : console.firstRefusal? (front ++ back) = some refusal := by
      rw [Console.firstRefusal?_append, first, Option.some_or]
    rw [after_of_some first, after_of_some both, Console.shown_append_of_some back first]

end

/-! ## Cuts -/

section

variable (console : Console)

@[simp] theorem cutBy_nil (ending : Ending) : cutBy console ⟨[], ending⟩ = ⟨[], ending⟩ :=
  rfl

@[simp] theorem cutBy_after (items : List ConsoleItem) (transcript : Transcript) :
    (transcript.after console.patient items).cutBy console =
      (transcript.cutBy console).after console items := by
  rw [after_patient, cutBy, ofItems, after_append]
  rfl

@[simp] theorem cutBy_ofItems (items : List ConsoleItem) (ending : Ending) :
    (ofItems console.patient items ending).cutBy console = ofItems console items ending := by
  rw [ofItems_patient, cutBy]

@[simp] theorem cutBy_ofFailure (failure : CommandFailure) :
    (ofFailure console.patient failure).cutBy console = ofFailure console failure := by
  unfold ofFailure
  split
  · exact cutBy_ofItems console _ _
  · rfl

@[simp] theorem cutBy_shown (verbose : Bool) (transcript : Transcript) :
    (transcript.shown verbose).cutBy console = (transcript.cutBy console).shown verbose := by
  have same : console.firstRefusal? (transcript.shown verbose).items =
      console.firstRefusal? transcript.items :=
    console.firstRefusal?_filter_isShown verbose transcript.items
  unfold cutBy ofItems
  rcases first : console.firstRefusal? transcript.items with _ | refusal
  · rw [after_of_none first, after_of_none (same.trans first)]
    simp only [shown, List.append_nil]
  · rw [after_of_some first, after_of_some (same.trans first)]
    exact congrArg (Transcript.mk · _) (console.shown_filter_isShown verbose transcript.items)

end

end Transcript

/-! ## Commands -/

namespace Command

section

variable (console : Console)

theorem cutBy_refused (error : SourceFileError) :
    (refused console.patient error).cutBy console = refused console error := by
  unfold refused
  split
  · exact Transcript.cutBy_ofItems console _ _
  · exact Transcript.cutBy_ofFailure console _

theorem cutBy_showSource (workspace : Workspace) (options : GlobalOptions) (source : String)
    (isStrict : Bool) :
    (showSource workspace console.patient options source isStrict).cutBy console =
      showSource workspace console options source isStrict := by
  unfold showSource
  rcases loadSettings workspace options.config with error | settings
  · exact Transcript.cutBy_ofFailure console _
  · dsimp only
    rw [Transcript.cutBy_after]
    rcases Model.ofFile workspace (.ofText source) settings.naming isStrict with error | m
    · rw [cutBy_refused]
    · rw [Transcript.cutBy_ofItems, Console.escape_patient]

theorem cutBy_listProfiles (workspace : Workspace) (options : GlobalOptions) :
    (listProfiles workspace console.patient options).cutBy console =
      listProfiles workspace console options := by
  unfold listProfiles
  split
  · exact Transcript.cutBy_ofFailure console _
  · exact Transcript.cutBy_ofItems console _ _

theorem cutBy_ofRun {σ : Type} (run : Performed σ RunError Summary) :
    (ofRun console.patient run).cutBy console = ofRun console run := by
  unfold ofRun
  rw [Transcript.cutBy_after]
  split
  · rw [Transcript.cutBy_nil]
  · rw [Transcript.cutBy_ofItems, Console.escape_patient]

variable {σ τ : Type} [Reckoning τ] (workspace : Workspace) (options : GlobalOptions)
  (transport : Transport σ τ) (world : σ)

theorem cutBy_deployTo (profile : Profile) (settings : SchemaSettings) (m : Model) :
    (deployTo workspace console.patient options transport profile settings m world).1.cutBy
        console =
      (deployTo workspace console options transport profile settings m world).1 := by
  unfold deployTo
  split
  · exact Transcript.cutBy_ofFailure console _
  · rw [Transcript.cutBy_after, cutBy_ofRun]

theorem cutBy_deployModel (destination : Destination) (settings : SchemaSettings) (m : Model) :
    (deployModel workspace console.patient options transport destination settings m
        world).1.cutBy console =
      (deployModel workspace console options transport destination settings m world).1 := by
  cases destination with
  | nowhere => exact cutBy_ofRun console _
  | profile name profile =>
      simp only [deployModel, showFirst]
      rw [Transcript.cutBy_after, cutBy_deployTo]

theorem cutBy_deploySource (source : String) (profile : Option String) (isDryRun : Bool) :
    (deploySource workspace console.patient options transport source profile isDryRun
        world).1.cutBy console =
      (deploySource workspace console options transport source profile isDryRun world).1 := by
  unfold deploySource
  rcases prepare workspace options profile isDryRun with failure | ⟨destination, settings⟩
  · exact Transcript.cutBy_ofFailure console _
  · rcases read : Model.ofFile workspace (.ofText source) settings.naming false with error | m
    · simp only [read, Transcript.cutBy_after, Transcript.cutBy_ofFailure]
    · simp only [read, showFirst, Transcript.cutBy_after, cutBy_deployModel,
        Console.escape_patient]

/-- On a console a command shows what it shows on a patient one, up to the first item that is
refused. -/
theorem execute_eq_cutBy (command : Command) :
    (execute workspace console options transport command world).1 =
      (execute workspace console.patient options transport command world).1.cutBy console := by
  unfold execute
  rw [Transcript.cutBy_shown]
  cases command with
  | parse source isStrict => simp only [cutBy_showSource]
  | deploy source profile isDryRun => simp only [cutBy_deploySource]
  | profiles => simp only [cutBy_listProfiles]

/-- What a command shows on a console that refuses nothing. -/
def printed (workspace : Workspace) (console : Console) (options : GlobalOptions)
    (transport : Transport σ τ) (command : Command) (world : σ) : List ConsoleItem :=
  (execute workspace console.patient options transport command world).1.items

/-- A command ends as it does on a patient console, unless something that it shows is refused. -/
theorem ending_execute (command : Command) :
    (execute workspace console options transport command world).1.ending =
      (console.firstRefusal? (printed workspace console options transport command world)).elim
        (execute workspace console.patient options transport command world).1.ending
        fun refusal => .crash (.refusal refusal) := by
  rw [execute_eq_cutBy, Transcript.ending_cutBy, printed]

end

end Command

end ErdDeploy
