/-
# Steps of TLS one behind the other

A pod goes through a list of TLS settings. A step fails exactly if TLS is enabled without
a secret, and a step that fails leaves the pod as it was, as does one where TLS is absent
or not enabled. So the pod at the end depends on the secrets of the other steps alone:
each adds a volume behind those that were there and a mount of it in the first container,
in the order of the steps. Nothing else of the pod changes, whatever further members its
parts have, and without a secret nothing changes at all: absent volumes stay absent.

Key definitions: `TlsSpec.given?`, `TlsSpec.secretsOf`, `PodSpec.afterTls`,
`PodSpec.mountingAll`.
Key theorems: `PodSpec.withTls_eq_error_iff`, `PodSpec.mountingAll_mounting`,
`PodSpec.afterTls_eq`, `PodSpec.afterTls_appends`.
-/
import ControllerSynthesis.Proofs.Synthesis.Pod

namespace ControllerSynthesis

/-! ### One step -/

namespace TlsSpec

/-- The secret that TLS settings give: they are there and enabled, and it is not empty. -/
def given? : Option TlsSpec → Option String
  | some ⟨true, some secret⟩ => if secret = "" then none else some secret
  | _ => none

/-- The secrets that steps give, in their order. -/
def secretsOf (steps : List (Option TlsSpec)) : List String :=
  steps.filterMap given?

/-- TLS settings are enabled, and their secret is absent or empty. -/
def LacksSecret (tls : Option TlsSpec) : Prop :=
  ∃ t, tls = some t ∧ t.enabled = true ∧ (t.controllerSecret = none ∨ t.controllerSecret = some "")

/-- Settings that ask for a secret with a name give it. -/
theorem given?_eq (tls : Option TlsSpec) : given? tls = (demand? tls).join := by
  rcases tls with _ | ⟨_ | _, _ | secret⟩
  case some.true.some => by_cases empty : secret = "" <;> simp [given?, demand?, nonEmpty?, Option.filter_some, empty]
  all_goals rfl

/-- Settings that ask for a secret without a name lack it. -/
theorem lacksSecret_iff {tls : Option TlsSpec} : LacksSecret tls ↔ demand? tls = some none := by
  rcases tls with _ | ⟨_ | _, _ | secret⟩ <;> simp [LacksSecret, demand?, nonEmpty?, Option.filter_some]

end TlsSpec

namespace PodSpec

/-- **A step fails exactly if a secret is lacking**, and reports this field. -/
theorem withTls_eq_error_iff {pod : PodSpec} {cluster : String} {tls : Option TlsSpec} {settings : Settings}
    {fault : MissingField} : pod.withTls cluster tls settings = .error fault ↔
      TlsSpec.LacksSecret tls ∧ fault = ⟨cluster, .secret⟩ := by
  rw [withTls_eq, TlsSpec.lacksSecret_iff]
  rcases TlsSpec.demand? tls with _ | _ | secret <;> simp [eq_comm]

/-! ### Mounting several secrets -/

/-- A list, if there is one, with items behind it; without items it stays as it is, also
absent. -/
def appendAll {α : Type} (items : Option (List α)) : List α → Option (List α)
  | [] => items
  | more => some (items.getD [] ++ more)

theorem appendAll_appendTo {α : Type} (items : Option (List α)) (item : α) (more : List α) :
    appendAll (appendTo items item) more = appendAll items (item :: more) := by
  cases more with
  | nil => rfl
  | cons next more => simp [appendAll, appendTo]

theorem appendAll_of_ne_nil {α : Type} (items : Option (List α)) {more : List α} (nonempty : more ≠ []) :
    appendAll items more = some (items.getD [] ++ more) := by
  cases more with
  | nil => exact absurd rfl nonempty
  | cons item more => rfl

/-- The pod with secrets as further volumes, in their order, each mounted in its first
container. -/
def mountingAll (pod : PodSpec) (secrets : List String) (settings : Settings) : PodSpec :=
  { pod with
    volumes := appendAll pod.volumes (secrets.map fun secret => tlsVolume secret settings)
    containers := pod.containers.modifyHead fun first =>
      { first with volumeMounts := appendAll first.volumeMounts (List.replicate secrets.length (tlsMount settings)) } }

theorem mountingAll_nil (pod : PodSpec) (settings : Settings) : pod.mountingAll [] settings = pod := by
  obtain ⟨affinity, containers, hostNetwork, nodeSelector, serviceAccountName, volumes, others⟩ := pod
  cases containers <;> rfl

/-- Secrets can be mounted one by one. -/
theorem mountingAll_mounting (pod : PodSpec) (secret : String) (secrets : List String) (settings : Settings) :
    (pod.mounting secret settings).mountingAll secrets settings = pod.mountingAll (secret :: secrets) settings := by
  obtain ⟨affinity, containers, hostNetwork, nodeSelector, serviceAccountName, volumes, others⟩ := pod
  cases containers with
  | nil => simp [mounting, mountingAll, appendAll_appendTo]
  | cons first others => simp [mounting, mountingAll, appendAll_appendTo, List.replicate_succ]

/-! ### All steps -/

/-- The pod behind a step: what the step makes, or the pod as it was if the step fails. -/
def tlsStep (cluster : String) (settings : Settings) (pod : PodSpec) (tls : Option TlsSpec) : PodSpec :=
  match pod.withTls cluster tls settings with
  | .ok next => next
  | .error _ => pod

/-- The pod behind steps of TLS, from the first to the last. -/
def afterTls (pod : PodSpec) (cluster : String) (settings : Settings) (steps : List (Option TlsSpec)) : PodSpec :=
  steps.foldl (tlsStep cluster settings) pod

/-- **One step** mounts the secret that its settings give, and else changes nothing. -/
theorem tlsStep_eq (cluster : String) (settings : Settings) (pod : PodSpec) (tls : Option TlsSpec) :
    tlsStep cluster settings pod tls =
      (TlsSpec.given? tls).elim pod fun secret => pod.mounting secret settings := by
  rw [tlsStep, withTls_eq, TlsSpec.given?_eq]
  rcases TlsSpec.demand? tls with _ | _ | secret <;> rfl

/-- **Several steps** mount the secrets that their settings give. -/
theorem afterTls_eq (cluster : String) (settings : Settings) (steps : List (Option TlsSpec)) (pod : PodSpec) :
    pod.afterTls cluster settings steps = pod.mountingAll (TlsSpec.secretsOf steps) settings := by
  -- On the steps, for any pod: the others go on from what the first one leaves.
  induction steps generalizing pod with
  | nil => exact (mountingAll_nil pod settings).symm
  | cons tls steps ih =>
    have next := ih (tlsStep cluster settings pod tls)
    rw [tlsStep_eq] at next
    rw [afterTls, List.foldl_cons, tlsStep_eq, TlsSpec.secretsOf, List.filterMap_cons]
    cases given : TlsSpec.given? tls with
    | none =>
      rw [given] at next
      exact next
    | some secret =>
      rw [given] at next
      exact next.trans (mountingAll_mounting pod secret _ settings)

/-- **Steps of TLS append to a pod and touch nothing else.** A step fails exactly if TLS
is enabled with a secret that is absent or empty, and reports it for the cluster. If no
step gives a secret the pod is as it was. Otherwise there is a volume more for each secret
that is given, in their order, and the first container, if there is one, has a mount
more for each; what was there stays in front. Everything else is as it was: the other
containers, and all other fields of the first container and of the pod, with the further
members that these have. -/
theorem afterTls_appends (pod : PodSpec) (cluster : String) (settings : Settings) (steps : List (Option TlsSpec)) :
    (∀ before tls after, steps = before ++ tls :: after → ∀ fault,
      (pod.afterTls cluster settings before).withTls cluster tls settings = .error fault ↔
        (∃ t, tls = some t ∧ t.enabled = true ∧ (t.controllerSecret = none ∨ t.controllerSecret = some "")) ∧
          fault = ⟨cluster, .secret⟩) ∧
    RequiredField.path .secret = "spec.tls.controllerSecret" ∧
    (TlsSpec.secretsOf steps = [] → pod.afterTls cluster settings steps = pod) ∧
    (TlsSpec.secretsOf steps ≠ [] → ∃ containers,
      pod.afterTls cluster settings steps =
        { pod with
          volumes := some (pod.volumes.getD [] ++ (TlsSpec.secretsOf steps).map fun secret =>
            { name := settings.tlsVolumeName, secret := some { secretName := some secret } })
          containers := containers } ∧
      (pod.containers = [] → containers = []) ∧
      ∀ first others, pod.containers = first :: others → containers =
        { first with volumeMounts := some (first.volumeMounts.getD [] ++
            List.replicate (TlsSpec.secretsOf steps).length
              { mountPath := settings.tlsMountPath, name := settings.tlsVolumeName }) } :: others) := by
  refine ⟨fun _ _ _ _ _ => withTls_eq_error_iff, rfl, ?_, ?_⟩
  · intro none
    rw [afterTls_eq, none, mountingAll_nil]
  · intro given
    have volumes : ((TlsSpec.secretsOf steps).map fun secret => tlsVolume secret settings) ≠ [] := by
      simpa using given
    have mounts : List.replicate (TlsSpec.secretsOf steps).length (tlsMount settings) ≠ [] := by
      simpa using given
    rw [afterTls_eq]
    refine ⟨(pod.mountingAll (TlsSpec.secretsOf steps) settings).containers, ?_, ?_, ?_⟩
    · rw [mountingAll, appendAll_of_ne_nil _ volumes]
      rfl
    · intro empty
      rw [mountingAll, empty]
      rfl
    · intro first rest same
      rw [mountingAll, same, List.modifyHead_cons, appendAll_of_ne_nil _ mounts]
      rfl

/-- A pod with two containers, of which the first mounts a folder of the host. Its parts
have members that nothing here has a field for. -/
def crowded : PodSpec where
  containers := [
    { name := "a"
      volumeMounts := some [{
        mountPath := "/data", name := "data", others := .ofList [("mountPropagation", .str "Bidirectional")] }]
      others := .ofList [("command", Json.texts ["serve"])] },
    { name := "b" }]
  volumes := some [{ name := "data", others := .ofList [("hostPath", .obj [("path", .str "/srv")])] }]
  others := .ofList [("hostAliases", .arr []), ("hostIPC", .bool true)]

/-- Four steps of TLS, of which two give a secret; the others are off, or fail. -/
def someSteps : List (Option TlsSpec) :=
  [some ⟨true, some "x"⟩, some ⟨false, some "y"⟩, some ⟨true, some ""⟩, some ⟨true, some "x"⟩]

/-- The third step fails; the secrets stand behind the folder of the host, and no further
member is lost. -/
theorem afterTls_appends_crowded :
    (crowded.afterTls "demo" {} (someSteps.take 2)).withTls "demo" (some ⟨true, some ""⟩) {} =
        .error ⟨"demo", .secret⟩ ∧
      (crowded.afterTls "demo" {} someSteps).volumes.map (fun volumes => volumes.map Volume.secret) =
        some [none, some { secretName := some "x" }, some { secretName := some "x" }] ∧
      (crowded.afterTls "demo" {} someSteps).others = crowded.others ∧
      (crowded.afterTls "demo" {} someSteps).containers.map Container.others =
        crowded.containers.map Container.others := by
  obtain ⟨fails, -, -, appends⟩ := afterTls_appends crowded "demo" {} someSteps
  obtain ⟨containers, same, -, first⟩ := appends (by decide)
  refine ⟨(fails _ (some ⟨true, some ""⟩) _ rfl _).mpr ⟨⟨_, rfl, rfl, .inr rfl⟩, rfl⟩, ?_⟩
  rw [same, first _ _ rfl]
  exact ⟨rfl, rfl, rfl⟩

end PodSpec

end ControllerSynthesis
