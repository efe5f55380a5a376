/-
# What synthesis tells

Synthesis tells a lot about its work, nearly all of it at the lowest level. What is shown
of it unless the filter is told otherwise is the warning of the version gate. The gate
stands in the configuration map, which comes first and needs the name and the namespace
of the cluster only, so the warning comes before anything else can be lacking.

Each step is filtered on its own: what is told behind a step that may fail is filtered
behind it.

Key theorems: `Log.filter_after`, `Version.mem_gateLog_of_parse`,
`notable_podTemplateLog`, `notable_synthesisLog`.
-/
import ControllerSynthesis.Proofs.Synthesis.Required
import ControllerSynthesis.Proofs.Version.Faults

namespace ControllerSynthesis

variable {c : Cluster} {settings : Settings}

namespace Log

variable {ε α : Type}

@[simp] theorem after_ok (a : α) (next : α → List Event) : after (.ok a : Except ε α) next = next a := rfl

@[simp] theorem after_error (e : ε) (next : α → List Event) : after (.error e) next = [] := rfl

@[simp] theorem after_nil (step : Except ε α) : (after step fun _ => []) = [] := by
  cases step <;> rfl

@[simp] theorem filter_after (p : Event → Bool) (step : Except ε α) (next : α → List Event) :
    (after step next).filter p = after step fun a => (next a).filter p := by
  cases step <;> rfl

@[simp] theorem isNotable_debug (message : String) (values : List (String × Value)) :
    (Event.debug message values).isNotable = false := rfl

end Log

/-! ### The gate -/

namespace Version

variable {version threshold : String} {comparison : Comparison}

/-- A gate warns exactly if one of its texts is malformed, and says why. -/
theorem mem_gateLog {e : Log.Event} : e ∈ gateLog version threshold comparison ↔
    ∃ why, compareWith version threshold comparison = .error why ∧
      e = gateWarning version threshold comparison why := by
  unfold gateLog
  split <;> simp [*]

/-- A gate with a threshold that can be read warns exactly if the version cannot. -/
theorem mem_gateLog_of_parse {t : Version} (readThreshold : parse threshold = .ok t) {e : Log.Event} :
    e ∈ gateLog version threshold comparison ↔ ∃ fault, parse version = .error fault ∧
      e = gateWarning version threshold comparison (.malformed version fault) := by
  rw [mem_gateLog]
  cases read : parse version with
  | error fault => simp [compareWith_of_fault read]
  | ok v => simp [compareWith_of_parse read readThreshold]

/-- It warns once. -/
theorem length_gateLog_le : (gateLog version threshold comparison).length ≤ 1 := by
  unfold gateLog
  split
  · exact Nat.zero_le 1
  · exact Nat.le_refl 1

/-- Its warning is shown. -/
@[simp] theorem notable_gateLog :
    (gateLog version threshold comparison).filter Log.Event.isNotable = gateLog version threshold comparison := by
  unfold gateLog
  split <;> rfl

end Version

/-! ### The builders -/

@[simp] theorem notable_configDataLog (cluster : String) (spec : ClusterSpec) :
    (configDataLog cluster spec settings).filter Log.Event.isNotable =
      Version.gateLog spec.version settings.jvm.gatedMinVersion .greaterOrEqual := by
  simp [configDataLog, javaFlagsLog]

@[simp] theorem notable_tlsLog (tls : Option TlsSpec) : (tlsLog tls settings).filter Log.Event.isNotable = [] := by
  unfold tlsLog
  split <;> rfl

/-- Nothing is shown of the pods. -/
@[simp] theorem notable_podTemplateLog : (podTemplateLog c settings).filter Log.Event.isNotable = [] := by
  simp [podTemplateLog, podSpecLog, controllerContainerLog]

@[simp] theorem notable_objectLog (object : String) (values : List (String × Log.Value))
    (next : String → List Log.Event) : (objectLog c object values next).filter Log.Event.isNotable =
      Log.after c.requireName fun name => Log.after c.requireNamespace fun _ =>
        (next name).filter Log.Event.isNotable := by
  simp [objectLog]

/-- What is told when the name and the namespace are there. -/
theorem Cluster.after_place (events : List Log.Event) :
    (Log.after c.requireName fun _ => Log.after c.requireNamespace fun _ => events) =
      if c.Has .name ∧ c.Has .namespaceName then events else [] := by
  cases named : nonEmpty? c.metadata.name with
  | none => simp [requireName, named, Has, ← nonEmpty?_eq_some]
  | some name =>
    cases placed : nonEmpty? c.metadata.namespaceName <;>
      simp [requireName, requireNamespace, named, placed, Has, ← nonEmpty?_eq_some, bind, Except.bind, pure,
        Except.pure, throw, throwThe, MonadExceptOf.throw]

/-- **What is shown of synthesis** is the warning of the version gate: exactly if the
cluster has a name and a namespace, whatever else it lacks, and a text of the gate is
malformed. -/
theorem notable_synthesisLog : (synthesisLog c settings).filter Log.Event.isNotable =
    if c.Has .name ∧ c.Has .namespaceName then
      Version.gateLog c.spec.version settings.jvm.gatedMinVersion .greaterOrEqual
    else [] := by
  rw [← Cluster.after_place]
  simp [synthesisLog, configMapLog, serviceLog, deploymentLog, disruptionBudgetLog]

end ControllerSynthesis
