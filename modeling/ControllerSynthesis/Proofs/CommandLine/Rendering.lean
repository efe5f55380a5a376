/-
# Rendering from the command line

`render` with a path, and with a namespace if one is given, goes through three stages:
the text of the file, the cluster of the text, and the objects of the cluster. Each stage
can fail, and the first that does decides what is reported. Either the manifest of the
objects is printed and nothing is reported, or nothing is printed and one stage is named.

The report stands behind the log. A run that fails before there is a cluster tells
nothing. One that fails for want of a field may have warned of the version before, and
unless the filter is told otherwise nothing else is shown.

Key definitions: `Manifest.Renders`, `Manifest.Unreadable`, `Manifest.Invalid`,
`Manifest.Incomplete`, `Manifest.Warned`.
Key theorems: `Storage.readText_eq_ok`, `Manifest.renderFile_cases`,
`Manifest.notable_of_failed`, `CommandLine.parse_render`, `CommandLine.run_render`.
-/
import ControllerSynthesis.CommandLine
import ControllerSynthesis.Proofs.Manifest.RoundTrip
import ControllerSynthesis.Proofs.Synthesis.Log
import ControllerSynthesis.Proofs.Version.Faults

namespace ControllerSynthesis

/-! ### Failures -/

namespace RenderFailure

/-- The stage that failed, as a report names it. -/
def stage : RenderFailure → String
  | unreadable .. => "Failed to read manifest "
  | invalid .. => "Invalid manifest "
  | incomplete .. => "Failed to synthesize resources from "

/-- The path of the manifest. -/
def path : RenderFailure → String
  | unreadable path _ => path
  | invalid path _ => path
  | incomplete path _ => path

/-- The outermost cause is the stage that failed, with the path. -/
theorem exists_causes (why : RenderFailure) (wording : Record.Wording) :
    ∃ inner, why.causes wording = (why.stage ++ why.path) :: inner := by
  cases why <;> exact ⟨_, rfl⟩

theorem break_not_mem_stage (why : RenderFailure) : '\n' ∉ why.stage.toList := by
  have plain : ∀ stage ∈ ["Failed to read manifest ", "Invalid manifest ", "Failed to synthesize resources from "],
      '\n' ∉ stage.toList := by decide
  cases why <;> exact plain _ (by simp [stage])

end RenderFailure

variable {reader : Storage.Reader} {path : String} {given : Option String}

/-! ### Files that are texts -/

/-- **A file holds a text** if its bytes are those of the text in UTF-8. -/
theorem Storage.readText_eq_ok {text : String} : readText reader path = .ok text ↔ reader path = .ok text.toUTF8 := by
  unfold readText
  cases reader path with
  | error why => simp [bind, Except.bind]
  | ok bytes =>
    have decoded : String.fromUTF8? bytes = some text ↔ bytes = text.toUTF8 := by
      unfold String.fromUTF8?
      split
      · rename_i valid
        rw [Option.some.injEq]
        exact ⟨fun same => same ▸ rfl, fun same => by subst same; rfl⟩
      · rename_i invalid
        exact ⟨nofun, fun same => absurd (same ▸ text.isValidUTF8) invalid⟩
    simp only [bind, Except.bind, Except.ok.injEq, ← decoded]
    cases String.fromUTF8? bytes <;> simp [throw, throwThe, MonadExceptOf.throw, pure, Except.pure]

namespace Manifest

/-! ### Stages -/

/-- The file at a path cannot be read, or its bytes are those of no text. -/
def Unreadable (reader : Storage.Reader) (path : String) : Prop :=
  (∃ why, reader path = .error why) ∨ ∃ bytes, reader path = .ok bytes ∧ ∀ text : String, text.toUTF8 ≠ bytes

/-- The file is a text, but no manifest of a cluster. -/
def Invalid (reader : Storage.Reader) (path : String) (given : Option String) : Prop :=
  ∃ (text : String) (why : Record.Failure), reader path = .ok text.toUTF8 ∧ read text given = .error why

/-- The file is the manifest of a cluster that lacks something synthesis needs. -/
def Incomplete (reader : Storage.Reader) (path : String) (given : Option String) : Prop :=
  ∃ (text : String) (cluster : Cluster) (why : MissingField),
    reader path = .ok text.toUTF8 ∧ read text given = .ok cluster ∧ synthesize cluster {} = .error why

/-- The run fails for want of a field behind the name and the namespace, and `e` is the
warning that the version of the cluster is malformed. -/
def Warned (reader : Storage.Reader) (path : String) (given : Option String) (e : Log.Event) : Prop :=
  ∃ (text : String) (cluster : Cluster) (why : MissingField) (fault : Version.Fault),
    reader path = .ok text.toUTF8 ∧ read text given = .ok cluster ∧ synthesize cluster {} = .error why ∧
      cluster.Has .name ∧ cluster.Has .namespaceName ∧ Version.parse cluster.spec.version = .error fault ∧
      e = Version.gateWarning cluster.spec.version "0.4.0" .greaterOrEqual (.malformed cluster.spec.version fault)

/-- The file is the manifest of a cluster, and `output` is that of its objects. -/
def Renders (reader : Storage.Reader) (path : String) (given : Option String) (output : String) : Prop :=
  ∃ (text : String) (cluster : Cluster) (objects : ControllerObjects),
    reader path = .ok text.toUTF8 ∧ read text given = .ok cluster ∧ synthesize cluster {} = .ok objects ∧
      output = render objects

/-- A file that cannot be read as a text is no text. -/
theorem unreadable_iff : Unreadable reader path ↔ ∀ text : String, reader path ≠ .ok text.toUTF8 := by
  unfold Unreadable
  cases reader path with
  | error why => simp
  | ok bytes => simp [eq_comm]

/-- The problem with such a file ends the run. -/
theorem renderFile_of_unreadable (lost : Unreadable reader path) :
    ∃ why, renderFile reader path given = .error (.unreadable path why) := by
  cases had : Storage.readText reader path with
  | error why =>
    refine ⟨why, ?_⟩
    rw [renderFile, load, had]
    rfl
  | ok text => exact absurd (Storage.readText_eq_ok.mp had) (unreadable_iff.mp lost text)

section

variable {text : String} (held : reader path = .ok text.toUTF8)
include held

/-- The text of a file is read as a cluster. -/
theorem load_of_text : load reader path given = (read text given).mapError (.invalid path) := by
  rw [load, Storage.readText_eq_ok.mpr held]
  rfl

theorem renderFile_of_invalid {why : Record.Failure} (refused : read text given = .error why) :
    renderFile reader path given = .error (.invalid path why) := by
  rw [renderFile, load_of_text held, refused]
  rfl

/-- The objects of a cluster are made and written. -/
theorem renderFile_of_cluster {cluster : Cluster} (parsed : read text given = .ok cluster) :
    renderFile reader path given = ((synthesize cluster {}).mapError (.incomplete path)).map render := by
  rw [renderFile, load_of_text held, parsed]
  change (synthesize cluster {}).mapError (RenderFailure.incomplete path) >>= (fun objects => pure (render objects)) = _
  cases synthesize cluster {} <;> rfl

end

/-- **The stages one behind the other**: what comes of them is the manifest of the
objects, or the failure of the first stage that has one. -/
theorem renderFile_cases (reader : Storage.Reader) (path : String) (given : Option String) :
    (∃ output, renderFile reader path given = .ok output ∧ Renders reader path given output) ∨
    (∃ why, renderFile reader path given = .error (.unreadable path why) ∧ Unreadable reader path) ∨
    (∃ why, renderFile reader path given = .error (.invalid path why) ∧ Invalid reader path given) ∨
    ∃ why, renderFile reader path given = .error (.incomplete path why) ∧ Incomplete reader path given := by
  by_cases lost : Unreadable reader path
  · obtain ⟨why, failed⟩ := renderFile_of_unreadable lost
    exact .inr (.inl ⟨why, failed, lost⟩)
  · rw [unreadable_iff] at lost
    simp only [ne_eq, not_forall, not_not] at lost
    obtain ⟨text, held⟩ := lost
    cases parsed : read text given with
    | error why => exact .inr (.inr (.inl ⟨why, renderFile_of_invalid held parsed, text, why, held, parsed⟩))
    | ok cluster =>
      have rest := renderFile_of_cluster held parsed
      cases made : synthesize cluster {} with
      | error why =>
        rw [made] at rest
        exact .inr (.inr (.inr ⟨why, rest, text, cluster, why, held, parsed, made⟩))
      | ok objects =>
        rw [made] at rest
        exact .inl ⟨render objects, rest, text, cluster, objects, held, parsed, made, rfl⟩

/-- What comes of the stages tells which of them was the last one. -/
theorem renderFile_means (reader : Storage.Reader) (path : String) (given : Option String) :
    (∀ output, renderFile reader path given = .ok output → Renders reader path given output) ∧
    (∀ why, renderFile reader path given = .error (.unreadable path why) → Unreadable reader path) ∧
    (∀ why, renderFile reader path given = .error (.invalid path why) → Invalid reader path given) ∧
    ∀ why, renderFile reader path given = .error (.incomplete path why) → Incomplete reader path given := by
  rcases renderFile_cases reader path given with
    ⟨_, same, holds⟩ | ⟨_, same, holds⟩ | ⟨_, same, holds⟩ | ⟨_, same, holds⟩
  all_goals simp [same, holds]

/-- A run fails over the path it is given. -/
theorem path_of_failed {why : RenderFailure} (failed : renderFile reader path given = .error why) :
    why.path = path := by
  rcases renderFile_cases reader path given with ⟨_, same, _⟩ | ⟨_, same, _⟩ | ⟨_, same, _⟩ | ⟨_, same, _⟩
  all_goals cases failed.symm.trans same <;> rfl

theorem renders_iff {output : String} :
    Renders reader path given output ↔ renderFile reader path given = .ok output := by
  refine ⟨?_, (renderFile_means reader path given).1 output⟩
  rintro ⟨text, cluster, objects, held, parsed, made, rfl⟩
  rw [renderFile_of_cluster held parsed, made]
  rfl

theorem unreadable_iff_failed (given : Option String) :
    Unreadable reader path ↔ ∃ why, renderFile reader path given = .error (.unreadable path why) :=
  ⟨renderFile_of_unreadable, fun ⟨why, failed⟩ => (renderFile_means reader path given).2.1 why failed⟩

theorem invalid_iff_failed :
    Invalid reader path given ↔ ∃ why, renderFile reader path given = .error (.invalid path why) := by
  refine ⟨?_, fun ⟨why, failed⟩ => (renderFile_means reader path given).2.2.1 why failed⟩
  rintro ⟨text, why, held, refused⟩
  exact ⟨why, renderFile_of_invalid held refused⟩

theorem incomplete_iff_failed :
    Incomplete reader path given ↔ ∃ why, renderFile reader path given = .error (.incomplete path why) := by
  refine ⟨?_, fun ⟨why, failed⟩ => (renderFile_means reader path given).2.2.2 why failed⟩
  rintro ⟨text, cluster, why, held, parsed, made⟩
  refine ⟨why, ?_⟩
  rw [renderFile_of_cluster held parsed, made]
  rfl

/-! ### The log -/

/-- A cluster is loaded if it is what the text of the file is read as. -/
theorem load_eq_ok {cluster : Cluster} : load reader path given = .ok cluster ↔
    ∃ text : String, reader path = .ok text.toUTF8 ∧ read text given = .ok cluster := by
  constructor
  · intro loaded
    cases had : Storage.readText reader path with
    | error why =>
      rw [load, had] at loaded
      cases loaded
    | ok text =>
      have held : reader path = .ok text.toUTF8 := Storage.readText_eq_ok.mp had
      rw [load_of_text held] at loaded
      cases parsed : read text given with
      | error why =>
        rw [parsed] at loaded
        cases loaded
      | ok own =>
        rw [parsed] at loaded
        exact ⟨text, held, parsed.trans (congrArg Except.ok (Except.ok.inj loaded))⟩
  · rintro ⟨text, held, parsed⟩
    rw [load_of_text held, parsed]
    rfl

/-- A run that loads no cluster tells nothing. -/
theorem renderFileLog_of_not_loaded (failed : ∀ cluster, load reader path given ≠ .ok cluster) :
    renderFileLog reader path given = [] := by
  have silent : loadLog reader path given = [] := by
    unfold loadLog readLog
    cases had : Storage.readText reader path with
    | error why => rfl
    | ok text =>
      cases parsed : read text given with
      | error why => simp [parsed]
      | ok cluster => exact absurd (load_eq_ok.mpr ⟨text, Storage.readText_eq_ok.mp had, parsed⟩) (failed cluster)
  rw [renderFileLog, silent]
  cases loaded : load reader path given with
  | error why => rfl
  | ok cluster => exact absurd loaded (failed cluster)

/-- What is shown of a run with a cluster: what is shown of its synthesis, and at the end
that it has been rendered. -/
theorem notable_renderFileLog {text : String} (held : reader path = .ok text.toUTF8) {cluster : Cluster}
    (parsed : read text given = .ok cluster) : (renderFileLog reader path given).filter Log.Event.isNotable =
      (synthesisLog cluster {}).filter Log.Event.isNotable ++
        Log.after (synthesize cluster {}) fun _ => [rendered cluster] := by
  have loaded : load reader path given = .ok cluster := load_eq_ok.mpr ⟨text, held, parsed⟩
  have told : (rendered cluster).isNotable = true := rfl
  simp [renderFileLog, loadLog, readLog, Storage.readText_eq_ok.mpr held, parsed, loaded, told]

/-- What is shown of a run that fails is the warning of the version, and that exactly if
only a field behind the name and the namespace is lacking. -/
theorem notable_iff_warned (failed : ¬ ∃ output, Renders reader path given output) {e : Log.Event} :
    (e ∈ renderFileLog reader path given ∧ e.isNotable = true) ↔ Warned reader path given e := by
  have threshold : ∃ t, Version.parse ({} : Settings).jvm.gatedMinVersion = .ok t := ⟨_, rfl⟩
  obtain ⟨t, threshold⟩ := threshold
  constructor
  · intro shown
    obtain ⟨cluster, loaded⟩ : ∃ cluster, load reader path given = .ok cluster := by
      by_contra none
      rw [renderFileLog_of_not_loaded (not_exists.mp none)] at shown
      exact List.not_mem_nil shown.1
    obtain ⟨text, held, parsed⟩ := load_eq_ok.mp loaded
    rw [← List.mem_filter, notable_renderFileLog held parsed, notable_synthesisLog] at shown
    cases made : synthesize cluster {} with
    | ok objects => exact absurd ⟨_, text, cluster, objects, held, parsed, made, rfl⟩ failed
    | error why =>
      rw [made, Log.after_error, List.append_nil] at shown
      split at shown
      · rename_i place
        obtain ⟨fault, refused, rfl⟩ := (Version.mem_gateLog_of_parse threshold).mp shown
        exact ⟨text, cluster, why, fault, held, parsed, made, place.1, place.2, refused, rfl⟩
      · cases shown
  · rintro ⟨text, cluster, why, fault, held, parsed, made, name, ns, refused, rfl⟩
    rw [← List.mem_filter, notable_renderFileLog held parsed, notable_synthesisLog, if_pos ⟨name, ns⟩, List.mem_append]
    exact .inl ((Version.mem_gateLog_of_parse threshold).mpr ⟨fault, refused, rfl⟩)

/-- Of a run that fails one event is shown at most. -/
theorem length_notable_le (failed : ¬ ∃ output, Renders reader path given output) :
    ((renderFileLog reader path given).filter Log.Event.isNotable).length ≤ 1 := by
  by_cases loaded : ∃ cluster, load reader path given = .ok cluster
  · obtain ⟨cluster, loaded⟩ := loaded
    obtain ⟨text, held, parsed⟩ := load_eq_ok.mp loaded
    rw [notable_renderFileLog held parsed, notable_synthesisLog]
    cases made : synthesize cluster {} with
    | ok objects => exact absurd ⟨_, text, cluster, objects, held, parsed, made, rfl⟩ failed
    | error why =>
      rw [Log.after_error, List.append_nil]
      split
      · exact Version.length_gateLog_le
      · exact Nat.zero_le 1
  · rw [renderFileLog_of_not_loaded (not_exists.mp loaded)]
    exact Nat.zero_le 1

/-- **What is shown of a run that fails** is nothing, and then no warning is due, or the
one warning that is due. -/
theorem notable_of_failed (failed : ¬ ∃ output, Renders reader path given output) :
    ((renderFileLog reader path given).filter Log.Event.isNotable = [] ∧ ∀ e, ¬ Warned reader path given e) ∨
      ∃ e, (renderFileLog reader path given).filter Log.Event.isNotable = [e] ∧ Warned reader path given e := by
  have due (e : Log.Event) := notable_iff_warned (e := e) failed
  simp only [← List.mem_filter] at due
  have few := length_notable_le failed
  cases shown : (renderFileLog reader path given).filter Log.Event.isNotable with
  | nil =>
    refine .inl ⟨rfl, fun e warned => ?_⟩
    have told := (due e).mpr warned
    rw [shown] at told
    exact List.not_mem_nil told
  | cons e others =>
    obtain rfl : others = [] := by
      rw [shown, List.length_cons] at few
      exact List.eq_nil_of_length_eq_zero (by omega)
    exact .inr ⟨e, rfl, (due e).mp (shown ▸ List.mem_cons_self)⟩

end Manifest

namespace CommandLine

open Manifest (Renders Unreadable Invalid Incomplete Warned)

/-! ### Arguments -/

/-- A text that does not begin with a hyphen is taken as it is. -/
theorem ofText_plain {text : String} (plain : text.toList.head? ≠ some '-') : Argument.ofText text = .plain text := by
  unfold Argument.ofText
  split <;> simp_all

/-- The arguments of `render` for a path, and for a namespace if one is given. -/
def renderArguments (path : String) (given : Option String) : List String :=
  ["render", "-f", path] ++ given.elim [] fun ns => ["-n", ns]

section

variable (named : path ≠ "") (plainPath : path.toList.head? ≠ some '-')
  (plainGiven : ∀ ns ∈ given, ns.toList.head? ≠ some '-')
include named plainPath plainGiven

/-- **The arguments name the path and the namespace.** -/
theorem parse_render : parse (renderArguments path given) = .render path given := by
  have command : Argument.ofText "render" = .plain "render" := by decide
  have file : Argument.ofText "-f" = .option .file none := by decide
  have place : Argument.ofText "-n" = .option .namespaceName none := by decide
  cases given with
  | none => simp [renderArguments, parse, parseRender, command, file, ofText_plain plainPath, RenderOptions.set?, named]
  | some ns =>
    simp [renderArguments, parse, parseRender, command, file, place, ofText_plain plainPath,
      ofText_plain (plainGiven ns rfl), RenderOptions.set?, named]

variable {environment : Option String}

/-- The log of such a run is that of its rendering. -/
theorem log_render :
    log reader environment (renderArguments path given) = Manifest.renderFileLog reader path (given.or environment) :=
  congrArg (Request.log reader environment) (parse_render named plainPath plainGiven)

theorem run_of_rendered {output : String} (done : Manifest.renderFile reader path (given.or environment) = .ok output) :
    run reader environment (renderArguments path given) = .printed output := by
  rw [run, parse_render named plainPath plainGiven, Request.outcome, done]

theorem run_of_failed {why : RenderFailure}
    (failed : Manifest.renderFile reader path (given.or environment) = .error why) :
    run reader environment (renderArguments path given) = .failed why := by
  rw [run, parse_render named plainPath plainGiven, Request.outcome, failed]

end

/-! ### Reports -/

/-- Behind the log of a run that fails stands the report of its failure. -/
theorem standardError_of_failed {environment : Option String} {arguments : List String} {why : RenderFailure}
    (failed : run reader environment arguments = .failed why) (sink : Log.Sink) (wording : Record.Wording) :
    standardError sink wording reader environment arguments =
      some (sink.text (log reader environment arguments) ++ Outcome.failureReport why wording) := by
  rw [standardError, failed]
  rfl

/-- **The first line of a report names the stage that failed, and the path.** -/
theorem firstLine_failureReport {why : RenderFailure} (wording : Record.Wording) (oneLine : '\n' ∉ why.path.toList) :
    firstLine (Outcome.failureReport why wording) = "Error: " ++ (why.stage ++ why.path) := by
  obtain ⟨inner, causes⟩ := why.exists_causes wording
  have front : "Error: ".toList.all (fun c => decide (c ≠ '\n')) = true := by decide
  have inside : ∀ c ∈ ("Error: " ++ (why.stage ++ why.path)).toList, (decide (c ≠ '\n')) = true := by
    intro c mem
    simp only [String.toList_append, List.mem_append] at mem
    rcases mem with mem | mem | mem
    · exact List.all_eq_true.mp front c mem
    · exact decide_eq_true fun same => why.break_not_mem_stage (same ▸ mem)
    · exact decide_eq_true fun same => oneLine (same ▸ mem)
  obtain ⟨rest, text⟩ : ∃ rest,
      (Outcome.failureReport why wording).toList = ("Error: " ++ (why.stage ++ why.path)).toList ++ '\n' :: rest := by
    simp [Outcome.failureReport, causes, String.intercalate_cons_cons]
  rw [firstLine, text, List.takeWhile_append_of_pos inside, List.takeWhile_cons_of_neg (by decide),
    List.append_nil, String.ofList_toList]

/-- **The command line is all or nothing.** The namespace is the one given with the
arguments, or else that of the environment. If the file at the path is the manifest of a
cluster that can be synthesized, the manifest of its objects is printed and the run
succeeds. Else nothing is printed, and the run fails. What is written to the standard error
ends with a report, and its first line names the stage that failed, and the path. In front
of the report of a failed run stands the log; unless the filter is told otherwise this is
nothing, or the warning that the version of the cluster is malformed. -/
theorem run_render (reader : Storage.Reader) (environment given : Option String) {path : String}
    (named : path ≠ "") (oneLine : '\n' ∉ path.toList) (plainPath : path.toList.head? ≠ some '-')
    (plainGiven : ∀ ns ∈ given, ns.toList.head? ≠ some '-') :
    let arguments := ["render", "-f", path] ++ given.elim [] fun ns => ["-n", ns]
    let outcome := run reader environment arguments
    let override := given.or environment
    (∀ output, Renders reader path override output → outcome.exitCode = 0 ∧ outcome.output = some output) ∧
    ((¬ ∃ output, Renders reader path override output) →
      outcome.exitCode = 1 ∧ outcome.output = some "" ∧
        (Unreadable reader path ∨ Invalid reader path override ∨ Incomplete reader path override) ∧
        (((log reader environment arguments).filter Log.Event.isNotable = [] ∧
            ∀ e, ¬ Warned reader path override e) ∨
          ∃ e, (log reader environment arguments).filter Log.Event.isNotable = [e] ∧
            Warned reader path override e)) ∧
    ∀ (sink : Log.Sink) (wording : Record.Wording), ∃ report,
      standardError sink wording reader environment arguments =
        some (sink.text (log reader environment arguments) ++ report) ∧
      (firstLine report = "Error: " ++ ("Failed to read manifest " ++ path) ↔ Unreadable reader path) ∧
      (firstLine report = "Error: " ++ ("Invalid manifest " ++ path) ↔ Invalid reader path override) ∧
      (firstLine report = "Error: " ++ ("Failed to synthesize resources from " ++ path) ↔
        Incomplete reader path override) := by
  intro arguments outcome override
  have told : log reader environment arguments = Manifest.renderFileLog reader path override :=
    log_render named plainPath plainGiven
  rw [Manifest.unreadable_iff_failed override, Manifest.invalid_iff_failed, Manifest.incomplete_iff_failed]
  have shown (failed : ¬ ∃ output, Renders reader path override output) := Manifest.notable_of_failed failed
  simp only [Manifest.renders_iff] at shown ⊢
  cases came : Manifest.renderFile reader path override with
  | ok output =>
    have printed : outcome = .printed output := run_of_rendered named plainPath plainGiven came
    have silent : firstLine "" = "" := rfl
    have written (sink : Log.Sink) (wording : Record.Wording) :
        standardError sink wording reader environment arguments =
          some (sink.text (log reader environment arguments) ++ "") := by
      rw [standardError, show run reader environment arguments = .printed output from printed]
      rfl
    refine ⟨by simp [printed, Outcome.exitCode, Outcome.output], by simp, fun sink wording =>
      ⟨"", written sink wording, ?_⟩⟩
    simp [silent]
  | error why =>
    have reported : outcome = .failed why := run_of_failed named plainPath plainGiven came
    have own : why.path = path := Manifest.path_of_failed came
    refine ⟨by simp, fun none => ⟨by simp [reported, Outcome.exitCode], by simp [reported, Outcome.output], ?_, ?_⟩,
      fun sink wording => ⟨_, standardError_of_failed reported sink wording, ?_⟩⟩
    · subst own
      cases why <;> simp [RenderFailure.path]
    · exact told ▸ shown (by simp [came])
    · -- The report of a stage begins with the name of that stage, and with no other.
      rw [firstLine_failureReport wording (own ▸ oneLine)]
      subst own
      cases why <;> simp [RenderFailure.stage, RenderFailure.path, String.append_right_inj, String.append_left_inj]

/-- A cluster without a namespace. -/
def homeless : Cluster where
  metadata := { name := some "demo" }
  spec := { version := "0.5.0", zookeeperUri := "zk:2181", pravega := { controllerResources := some {} } }

/-- A cluster without resources, whose version cannot be read. -/
def rolling : Cluster where
  metadata := { name := some "demo" }
  spec := { version := "latest", zookeeperUri := "zk:2181" }

/-- The manifests of both, and beside them a file that is no text. -/
def shelf : Storage.Reader := fun path =>
  if path = "demo.yaml" then .ok (Manifest.write homeless).toUTF8
  else if path = "rolling.yaml" then .ok (Manifest.write rolling).toUTF8
  else if path = "photo" then .ok ⟨#[0xFF]⟩
  else .error .notFound

/-- The manifest is rendered in the namespace of the environment; from the file that is no
text nothing is printed. -/
theorem run_render_shelf :
    (∃ r, synthesize (Manifest.place (some "ops") homeless) {} = .ok r ∧
      (run shelf (some "ops") ["render", "-f", "demo.yaml"]).exitCode = 0 ∧
      (run shelf (some "ops") ["render", "-f", "demo.yaml"]).output = some (Manifest.render r)) ∧
    (run shelf none ["render", "-f", "photo", "-n", "ops"]).exitCode = 1 ∧
    (run shelf none ["render", "-f", "photo", "-n", "ops"]).output = some "" ∧
    ∀ sink wording, ∃ front report,
      standardError sink wording shelf none ["render", "-f", "photo", "-n", "ops"] = some (front ++ report) ∧
        firstLine report = "Error: " ++ ("Failed to read manifest " ++ "photo") := by
  obtain ⟨prints, -⟩ := run_render shelf (some "ops") none (by decide : "demo.yaml" ≠ "") (by decide) (by decide) nofun
  obtain ⟨-, fails, writes⟩ := run_render shelf none (some "ops") (by decide : "photo" ≠ "") (by decide)
    (by decide) (by decide)
  obtain ⟨r, made⟩ : ∃ r, synthesize (Manifest.place (some "ops") homeless) {} = .ok r := ⟨_, rfl⟩
  have plain : homeless.IsPlain := ⟨⟨nofun, nofun, rfl, rfl, rfl⟩, by decide, nofun⟩
  have noText (text : String) : text.toUTF8 ≠ ⟨#[0xFF]⟩ := fun same =>
    (by decide : ¬ ByteArray.IsValidUTF8 ⟨#[0xFF]⟩) (same ▸ text.isValidUTF8)
  obtain ⟨exit, silent, -⟩ := fails fun ⟨_, text, _, _, held, _⟩ => noText text (Except.ok.inj held).symm
  refine ⟨⟨r, made, prints _ ⟨_, _, r, rfl, Manifest.read_write plain _, made, rfl⟩⟩, exit, silent,
    fun sink wording => ?_⟩
  obtain ⟨report, written, unreadable, -⟩ := writes sink wording
  exact ⟨_, report, written, unreadable.mpr (.inr ⟨_, rfl, noText⟩)⟩

/-- A text that begins with another letter has another first line than a report. -/
theorem firstLine_ne {text : String} {c : Char} {cs : List Char} (begins : text.toList = c :: cs) (other : c ≠ 'E')
    (outermost : String) : firstLine text ≠ "Error: " ++ outermost := by
  intro same
  have letters := congrArg String.toList same
  rw [firstLine, begins, String.toList_ofList, String.toList_append, List.takeWhile_cons] at letters
  split at letters
  · exact other (List.cons.inj letters).1
  · cases letters

/-- The first line on the standard error need not be that of the report. Unless the filter
is told otherwise, the log begins with the warning that the version is malformed; and a
line of the log begins with the time, not with `Error`. -/
theorem run_render_warned : Incomplete shelf "rolling.yaml" (some "ops") ∧
    ∀ (write : Nat → Log.Event → String) (wording : Record.Wording),
      (∀ n e, ∃ c cs, (write n e).toList = c :: cs ∧ c ≠ 'E') →
      ∃ text,
        standardError { write := write } wording shelf none ["render", "-f", "rolling.yaml", "-n", "ops"] = some text ∧
        firstLine text ≠ "Error: " ++ ("Failed to synthesize resources from " ++ "rolling.yaml") := by
  have plain : rolling.IsPlain := ⟨⟨nofun, nofun, rfl, rfl, rfl⟩, by decide, nofun⟩
  have held : shelf "rolling.yaml" = .ok (Manifest.write rolling).toUTF8 := rfl
  have parsed := Manifest.read_write plain (some "ops")
  obtain ⟨why, made⟩ : ∃ why, synthesize (Manifest.place (some "ops") rolling) {} = .error why := ⟨_, rfl⟩
  have failed : Manifest.renderFile shelf "rolling.yaml" (some "ops") = .error (.incomplete "rolling.yaml" why) := by
    rw [Manifest.renderFile_of_cluster held parsed, made]
    rfl
  have plainGiven : ∀ ns ∈ some "ops", ns.toList.head? ≠ some '-' := by decide
  have told : log shelf none (renderArguments "rolling.yaml" (some "ops")) =
      Manifest.renderFileLog shelf "rolling.yaml" (some "ops") := log_render (by decide) (by decide) plainGiven
  have reported : run shelf none (renderArguments "rolling.yaml" (some "ops")) =
      .failed (.incomplete "rolling.yaml" why) := run_of_failed (by decide) (by decide) plainGiven failed
  refine ⟨⟨_, _, why, held, parsed, made⟩, fun write wording begins => ?_⟩
  obtain ⟨fault, refused⟩ : ∃ fault, Version.parse "latest" = .error fault := ⟨_, rfl⟩
  have warning : (Manifest.renderFileLog shelf "rolling.yaml" (some "ops")).filter Log.Event.isNotable =
      [Version.gateWarning "latest" "0.4.0" .greaterOrEqual (.malformed "latest" fault)] := by
    rw [Manifest.notable_renderFileLog held parsed, notable_synthesisLog, if_pos (by decide), made,
      Log.after_error, List.append_nil]
    change Version.gateLog "latest" "0.4.0" .greaterOrEqual = _
    rw [Version.gateLog, Version.compareWith_of_fault refused]
  obtain ⟨c, cs, first, other⟩ :=
    begins 0 (Version.gateWarning "latest" "0.4.0" .greaterOrEqual (.malformed "latest" fault))
  have text : (({ write := write } : Log.Sink).text (log shelf none (renderArguments "rolling.yaml" (some "ops"))) ++
      Outcome.failureReport (.incomplete "rolling.yaml" why) wording).toList =
        c :: (cs ++ (Outcome.failureReport (.incomplete "rolling.yaml" why) wording).toList) := by
    rw [told, Log.Sink.text, warning]
    simp [String.join, first]
  exact ⟨_, standardError_of_failed reported _ wording, firstLine_ne text other _⟩

end CommandLine

end ControllerSynthesis
