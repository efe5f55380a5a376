/-
# What synthesis asks for

A cluster has a field that synthesis needs, or it lacks it. A builder asks for some of
these fields in an order of its own: it fails with the first of them that is lacking,
and succeeds if none is. Builders one behind the other ask for the fields of the first
and then for those of the second that are new, so what a builder asks for follows from
its parts, however often they check the same field.

Key definitions: `Cluster.Has`, `Cluster.firstLacking?`, `RequiredField.andThen`, `Asks`.
Key theorems: `Asks.bind`, `Asks.succeeds_iff`, `synthesize_asks`, `synthesize_fails_first`.
-/
import ControllerSynthesis.Proofs.Synthesis.Pod

namespace ControllerSynthesis

variable {α β : Type} {c : Cluster} {settings : Settings}

/-! ### Fields that are had -/

namespace Cluster

/-- The cluster has a required field: a name and a namespace that are not empty,
resources, be they empty, and the name of a secret where TLS is enabled. -/
def Has (c : Cluster) : RequiredField → Prop
  | .name => ∃ name, c.metadata.name = some name ∧ name ≠ ""
  | .namespaceName => ∃ ns, c.metadata.namespaceName = some ns ∧ ns ≠ ""
  | .resources => ∃ resources, c.spec.pravega.controllerResources = some resources
  | .secret => ∀ tls, c.spec.tls = some tls → tls.enabled = true →
      ∃ secret, tls.controllerSecret = some secret ∧ secret ≠ ""

instance (c : Cluster) : DecidablePred c.Has
  | .name => decidable_of_iff ((nonEmpty? c.metadata.name).isSome = true) <| by
      simp [Has, Option.isSome_iff_exists, nonEmpty?_eq_some]
  | .namespaceName => decidable_of_iff ((nonEmpty? c.metadata.namespaceName).isSome = true) <| by
      simp [Has, Option.isSome_iff_exists, nonEmpty?_eq_some]
  | .resources => decidable_of_iff (c.spec.pravega.controllerResources.isSome = true) <| by
      simp [Has, Option.isSome_iff_exists]
  | .secret => decidable_of_iff
      (∀ tls ∈ c.spec.tls, tls.enabled = true → (nonEmpty? tls.controllerSecret).isSome = true) <| by
      simp [Has, Option.isSome_iff_exists, nonEmpty?_eq_some]

/-- What is reported when a field is lacking: the field, for the cluster by its name,
or for one without a name. -/
def lacking (c : Cluster) : RequiredField → MissingField
  | .name => ⟨"<unnamed>", .name⟩
  | field => ⟨c.metadata.name.getD "", field⟩

/-- The first of the fields that the cluster lacks. -/
def firstLacking? (c : Cluster) (fields : List RequiredField) : Option MissingField :=
  (fields.find? fun field => ¬ c.Has field).map c.lacking

end Cluster

/-- The fields of the first list, and behind them those of the second that are new. -/
def RequiredField.andThen (first second : List RequiredField) : List RequiredField :=
  first ++ second.filter fun field => field ∉ first

/-- The fields of both lists that are lacking first: what has been asked for before is
had when it is asked for again. -/
theorem Cluster.firstLacking?_andThen (c : Cluster) (first second : List RequiredField) :
    c.firstLacking? (RequiredField.andThen first second) =
      (c.firstLacking? first).or (c.firstLacking? second) := by
  unfold firstLacking? RequiredField.andThen
  rw [List.find?_append, List.find?_filter]
  cases found : first.find? fun field => ¬ c.Has field with
  | some field => rfl
  | none =>
    have had : ∀ field ∈ first, c.Has field := by simpa using found
    have again : (fun field => decide (decide (field ∉ first) = true ∧ decide (¬ c.Has field) = true)) =
        fun field => decide (¬ c.Has field) := by
      funext field
      by_cases mem : field ∈ first <;> simp [mem, had]
    rw [again, Option.none_or, Option.map_none, Option.none_or]

/-! ### Builders -/

/-- The builder asks for these fields of the cluster, in this order: it fails with the
first that is lacking, and succeeds if none is. -/
def Asks (c : Cluster) (fields : List RequiredField) (x : Except MissingField α) : Prop :=
  match c.firstLacking? fields with
  | none => ∃ a, x = .ok a
  | some fault => x = .error fault

namespace Asks

theorem nothing (a : α) : Asks c [] (.ok a) := ⟨a, rfl⟩

/-- A builder that asks for one field. -/
theorem single {field : RequiredField} {x : Except MissingField α} (has : c.Has field → ∃ a, x = .ok a)
    (lacks : ¬ c.Has field → x = .error (c.lacking field)) : Asks c [field] x := by
  by_cases had : c.Has field
  · simpa [Asks, Cluster.firstLacking?, had] using has had
  · simpa [Asks, Cluster.firstLacking?, had] using lacks had

/-- What a builder asks for decides whether it succeeds. -/
theorem succeeds_iff {fields : List RequiredField} {x : Except MissingField α} (asks : Asks c fields x) :
    (∃ a, x = .ok a) ↔ ∀ field ∈ fields, c.Has field := by
  have none_iff : c.firstLacking? fields = none ↔ ∀ field ∈ fields, c.Has field := by
    simp [Cluster.firstLacking?]
  rw [← none_iff]
  unfold Asks at asks
  split at asks
  · rename_i none
    simp [none, asks]
  · rename_i fault first
    simp [first, asks]

/-- And how it fails. -/
theorem fails_iff {fields : List RequiredField} {x : Except MissingField α} (asks : Asks c fields x)
    (fault : MissingField) : x = .error fault ↔ c.firstLacking? fields = some fault := by
  unfold Asks at asks
  split at asks
  · rename_i none
    obtain ⟨a, rfl⟩ := asks
    simp [none]
  · rename_i other first
    simp [first, asks]

/-- **Builders one behind the other.** The second need not check again what the first
has asked for. -/
theorem bind {first second : List RequiredField} {x : Except MissingField α} {f : α → Except MissingField β}
    (asksFirst : Asks c first x) (asksSecond : ∀ a, x = .ok a → Asks c second (f a)) :
    Asks c (RequiredField.andThen first second) (x >>= f) := by
  unfold Asks at asksFirst ⊢
  rw [Cluster.firstLacking?_andThen]
  cases lacks : c.firstLacking? first with
  | some fault =>
    rw [lacks] at asksFirst
    rw [asksFirst]
    rfl
  | none =>
    rw [lacks] at asksFirst
    obtain ⟨a, made⟩ := asksFirst
    rw [made, Option.none_or]
    exact asksSecond a made

end Asks

/-! ### The parts of the pod -/

theorem Cluster.requireName_asks (c : Cluster) : Asks c [.name] c.requireName := by
  refine .single (fun had => ?_) fun lacks => ?_
  · obtain ⟨name, given⟩ := had
    exact ⟨name, requireName_eq_ok.mpr given⟩
  · rw [requireName]
    split
    · rename_i name given
      exact absurd ⟨name, nonEmpty?_eq_some.mp given⟩ lacks
    · rfl

theorem Cluster.requireNamespace_asks (c : Cluster) : Asks c [.name, .namespaceName] c.requireNamespace := by
  change Asks c (RequiredField.andThen [.name] [.namespaceName]) _
  unfold requireNamespace
  refine c.requireName_asks.bind fun name named => .single (fun had => ?_) fun lacks => ?_
  · obtain ⟨ns, own⟩ := had
    rw [nonEmpty?_eq_some.mpr own]
    exact ⟨ns, rfl⟩
  · have given : c.metadata.name = some name := (requireName_eq_ok.mp named).1
    split
    · rename_i ns own
      exact absurd ⟨ns, nonEmpty?_eq_some.mp own⟩ lacks
    · rw [lacking, given]
      · rfl
      · exact nofun

theorem controllerContainer_asks {name : String} (named : c.requireName = .ok name) (settings : Settings) :
    Asks c [.resources] (controllerContainer name c.spec settings) := by
  have given := (Cluster.requireName_eq_ok.mp named).1
  refine .single (fun had => ?_) fun lacks => ?_
  · obtain ⟨resources, own⟩ := had
    rw [controllerContainer, own]
    exact ⟨_, rfl⟩
  · rw [controllerContainer]
    split
    · simp [Cluster.lacking, given]
    · rename_i resources own
      exact absurd ⟨resources, own⟩ lacks

theorem basePodSpec_asks {name : String} (named : c.requireName = .ok name) (settings : Settings) :
    Asks c [.resources] (basePodSpec name c.spec settings) :=
  (controllerContainer_asks named settings).bind fun _ _ => .nothing _

theorem PodSpec.withTls_asks {name : String} (named : c.requireName = .ok name) (pod : PodSpec)
    (settings : Settings) : Asks c [.secret] (pod.withTls name c.spec.tls settings) := by
  have given : c.metadata.name = some name := (Cluster.requireName_eq_ok.mp named).1
  refine .single (fun had => ?_) fun lacks => ?_
  · cases same : c.spec.tls with
    | none => exact ⟨pod, rfl⟩
    | some tls =>
      by_cases on : tls.enabled = true
      · obtain ⟨secret, own⟩ := had tls same on
        exact ⟨_, withTls_on (TlsSpec.secret?_eq_some.mpr ⟨on, own⟩) pod settings⟩
      · exact ⟨pod, withTls_off (by simpa using on) pod settings⟩
  · simp only [Cluster.Has, Classical.not_forall] at lacks
    obtain ⟨tls, same, on, unnamed⟩ := lacks
    have none : tls.secret? = none :=
      Option.eq_none_iff_forall_ne_some.mpr fun secret own => unnamed ⟨secret, (TlsSpec.secret?_eq_some.mp own).2⟩
    rw [same, withTls_unnamed on none]
    simp [Cluster.lacking, given]

/-! ### Builders of synthesis -/

theorem podSpec_asks (c : Cluster) (settings : Settings) :
    Asks c [.name, .resources, .secret] (podSpec c settings) :=
  c.requireName_asks.bind fun _ named =>
    (basePodSpec_asks named settings).bind fun pod _ => PodSpec.withTls_asks named pod settings

theorem podTemplate_asks (c : Cluster) (settings : Settings) :
    Asks c [.name, .resources, .secret] (podTemplate c settings) :=
  c.requireName_asks.bind fun _ _ => (podSpec_asks c settings).bind fun _ _ => .nothing _

theorem configMap_asks (c : Cluster) (settings : Settings) : Asks c [.name, .namespaceName] (configMap c settings) :=
  c.requireName_asks.bind fun _ _ => c.requireNamespace_asks.bind fun _ _ => .nothing _

theorem service_asks (c : Cluster) (settings : Settings) : Asks c [.name, .namespaceName] (service c settings) :=
  c.requireName_asks.bind fun _ _ => c.requireNamespace_asks.bind fun _ _ => .nothing _

theorem disruptionBudget_asks (c : Cluster) (settings : Settings) :
    Asks c [.name, .namespaceName] (disruptionBudget c settings) :=
  c.requireName_asks.bind fun _ _ => c.requireNamespace_asks.bind fun _ _ => .nothing _

theorem deployment_asks (c : Cluster) (settings : Settings) :
    Asks c [.name, .namespaceName, .resources, .secret] (deployment c settings) :=
  c.requireName_asks.bind fun _ _ => c.requireNamespace_asks.bind fun _ _ =>
    (podTemplate_asks c settings).bind fun _ _ => .nothing _

theorem synthesize_asks (c : Cluster) (settings : Settings) :
    Asks c [.name, .namespaceName, .resources, .secret] (synthesize c settings) :=
  (configMap_asks c settings).bind fun _ _ => (service_asks c settings).bind fun _ _ =>
    (deployment_asks c settings).bind fun _ _ => (disruptionBudget_asks c settings).bind fun _ _ => .nothing _

@[simp] theorem Cluster.lacking_field (c : Cluster) (field : RequiredField) : (c.lacking field).field = field := by
  cases field <;> rfl

/-- No field that the cluster has is reported. -/
theorem field_ne_of_has {field : RequiredField} (had : c.Has field) {fault : MissingField}
    (failed : synthesize c settings = .error fault) : fault.field ≠ field := by
  obtain ⟨other, found, rfl⟩ := Option.map_eq_some_iff.mp (((synthesize_asks c settings).fails_iff fault).mp failed)
  have lacks : ¬c.Has other := by simpa using List.find?_some found
  rw [Cluster.lacking_field]
  rintro rfl
  exact lacks had

/-- Without a namespace nothing is made, and this is reported unless the name is lacking
too. -/
theorem fails_of_no_namespace (lacks : ¬c.Has .namespaceName) :
    ∃ fault, synthesize c settings = .error fault ∧ (fault.field = .namespaceName ↔ c.Has .name) := by
  have asks := synthesize_asks c settings
  by_cases named : c.Has .name
  · have first : c.firstLacking? [.name, .namespaceName, .resources, .secret] = some (c.lacking .namespaceName) := by
      simp [Cluster.firstLacking?, named, lacks]
    exact ⟨_, (asks.fails_iff _).mpr first, by simp [named]⟩
  · have first : c.firstLacking? [.name, .namespaceName, .resources, .secret] = some (c.lacking .name) := by
      simp [Cluster.firstLacking?, named]
    exact ⟨_, (asks.fails_iff _).mpr first, by simp [named]⟩

/-- Synthesis makes what its builders make alone. -/
theorem synthesize_eq_ok_iff_builders {r : ControllerObjects} : synthesize c settings = .ok r ↔
    configMap c settings = .ok r.configMap ∧ service c settings = .ok r.service ∧
      deployment c settings = .ok r.deployment ∧ disruptionBudget c settings = .ok r.disruptionBudget := by
  obtain ⟨map, service, deployment, budget⟩ := r
  unfold synthesize
  cases configMap c settings with
  | error fault => simp [bind, Except.bind]
  | ok map =>
    cases ControllerSynthesis.service c settings with
    | error fault => simp [bind, Except.bind]
    | ok service =>
      cases ControllerSynthesis.deployment c settings with
      | error fault => simp [bind, Except.bind]
      | ok deployment =>
        cases disruptionBudget c settings <;> simp [bind, Except.bind, pure, Except.pure]

/-- Where the name is asked for first, another field is reported with it. -/
theorem Cluster.firstLacking?_cases {fields : List RequiredField} {fault : MissingField}
    (first : c.firstLacking? (.name :: fields) = some fault) :
    fault = ⟨"<unnamed>", .name⟩ ∨
      ∃ name field, c.metadata.name = some name ∧ field ≠ .name ∧ fault = ⟨name, field⟩ := by
  obtain ⟨field, found, rfl⟩ := Option.map_eq_some_iff.mp first
  by_cases had : c.Has .name
  · have ⟨name, given, _⟩ := had
    have lacks : ¬ c.Has field := by simpa using List.find?_some found
    have other : field ≠ .name := fun same => lacks (same ▸ had)
    refine .inr ⟨name, field, given, other, ?_⟩
    rw [lacking, given]
    · rfl
    · exact other
  · rw [List.find?_cons_of_pos (by simpa using had)] at found
    cases found
    exact .inl rfl

/-- **Synthesis fails exactly when a required field is lacking**, with the first one, and
makes all objects or none. -/
theorem synthesize_fails_first (c : Cluster) (settings : Settings) :
    ([.name, .namespaceName, .resources, .secret] : List RequiredField).map RequiredField.path =
      ["metadata.name", "metadata.namespace", "spec.pravega.controllerResources",
        "spec.tls.controllerSecret"] ∧
    Asks c [.name, .namespaceName, .resources, .secret] (synthesize c settings) ∧
    Asks c [.name, .namespaceName] (configMap c settings) ∧
    Asks c [.name, .namespaceName] (service c settings) ∧
    Asks c [.name, .namespaceName, .resources, .secret] (deployment c settings) ∧
    Asks c [.name, .namespaceName] (disruptionBudget c settings) ∧
    Asks c [.name, .resources, .secret] (podSpec c settings) ∧
    Asks c [.name, .resources, .secret] (podTemplate c settings) ∧
    ((∃ r, synthesize c settings = .ok r) ↔
      (∃ name, c.metadata.name = some name ∧ name ≠ "") ∧
      (∃ ns, c.metadata.namespaceName = some ns ∧ ns ≠ "") ∧
      (∃ resources, c.spec.pravega.controllerResources = some resources) ∧
      ∀ tls, c.spec.tls = some tls → tls.enabled = true →
        ∃ secret, tls.controllerSecret = some secret ∧ secret ≠ "") ∧
    (∀ fault, synthesize c settings = .error fault → fault = ⟨"<unnamed>", .name⟩ ∨
      ∃ name field, c.metadata.name = some name ∧ field ≠ .name ∧ fault = ⟨name, field⟩) ∧
    (∀ r, synthesize c settings = .ok r ↔
      configMap c settings = .ok r.configMap ∧ service c settings = .ok r.service ∧
        deployment c settings = .ok r.deployment ∧ disruptionBudget c settings = .ok r.disruptionBudget) ∧
    ∀ (d : Cluster) (t : Settings) (fault : MissingField),
      synthesize { d with
        metadata.name := c.metadata.name
        metadata.namespaceName := c.metadata.namespaceName
        spec.pravega.controllerResources := c.spec.pravega.controllerResources
        spec.tls := c.spec.tls } t = .error fault ↔ synthesize c settings = .error fault := by
  have asks := synthesize_asks c settings
  refine ⟨rfl, asks, configMap_asks c settings, service_asks c settings, deployment_asks c settings,
    disruptionBudget_asks c settings, podSpec_asks c settings, podTemplate_asks c settings, ?_, ?_,
    fun _ => synthesize_eq_ok_iff_builders, ?_⟩
  · rw [asks.succeeds_iff]
    simp [Cluster.Has]
  · intro fault failed
    exact Cluster.firstLacking?_cases ((asks.fails_iff fault).mp failed)
  · intro d t fault
    rw [asks.fails_iff, (synthesize_asks _ t).fails_iff]
    rfl

/-- A cluster without a namespace, and without the secret of TLS. -/
def exposed : Cluster where
  metadata := { name := some "demo" }
  spec := {
    version := "0.5.0"
    zookeeperUri := "zk:2181"
    tls := some { enabled := true, controllerSecret := some "" }
    pravega := { controllerResources := some {} } }

/-- The pods are made without the namespace, so their first fault is another one. -/
example : deployment exposed {} = .error ⟨"demo", .namespaceName⟩ ∧
    podTemplate exposed {} = .error ⟨"demo", .secret⟩ :=
  ⟨rfl, rfl⟩

end ControllerSynthesis
