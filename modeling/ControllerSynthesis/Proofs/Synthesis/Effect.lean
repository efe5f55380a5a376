/-
# What counts of a cluster

An absent part of a cluster, one that is switched off and one that is empty are different
values with the same effect. The effect of a cluster is what is left when all that does
not count is taken away, and synthesis depends on the effect alone: clusters with the same
effect lead to the same objects, or to the same failure.

So a cluster can be brought into a form that says what counts and nothing else: parts that
are switched off or empty are taken out, defaults that are in use are written down, and
the status goes with all metadata but the name and the namespace. It has the effect of the
cluster, and a second time nothing is left to do.

Key definitions: `Cluster.Effect`, `Cluster.effect`, `Cluster.reduced`, `Cluster.filled`.
Key theorems: `synthesize_congr_effect`, `Cluster.effect_reduced`, `Cluster.effect_filled`,
`synthesize_reduced`.
-/
import ControllerSynthesis.Proofs.Synthesis.Pod

namespace ControllerSynthesis

variable {c d : Cluster}

/-! ### The effect of a cluster -/

/-- All that synthesis takes from a cluster. -/
structure Cluster.Effect where
  name : Option String
  namespaceName : Option String
  version : String
  zookeeperUri : String
  replicas : Int
  resources : Option Resources
  serviceAccount : Option String
  imageReference : String
  pullPolicy : String
  options : KeyMap String
  tls : Option (Option String)
  serviceType : Option ServiceType

/-- The effect of a cluster. -/
def Cluster.effect (c : Cluster) : Cluster.Effect where
  name := nonEmpty? c.metadata.name
  namespaceName := nonEmpty? c.metadata.namespaceName
  version := c.spec.version
  zookeeperUri := c.spec.zookeeperUri
  replicas := c.spec.pravega.controllerReplicas
  resources := c.spec.pravega.controllerResources
  serviceAccount := nonEmpty? c.spec.pravega.controllerServiceAccountName
  imageReference := (c.spec.pravega.image.getD {}).reference c.spec.version
  pullPolicy := (c.spec.pravega.image.getD {}).pullPolicyOrDefault
  options := c.spec.pravega.options
  tls := TlsSpec.demand? c.spec.tls
  serviceType := c.externalServiceType?

/-! ### Synthesis depends on the effect -/

theorem Cluster.requireName_congr_effect (same : c.effect = d.effect) : c.requireName = d.requireName := by
  have name : nonEmpty? c.metadata.name = nonEmpty? d.metadata.name := congrArg Effect.name same
  rw [requireName, requireName, name]

theorem Cluster.requireNamespace_congr_effect (same : c.effect = d.effect) :
    c.requireNamespace = d.requireNamespace := by
  have ns : nonEmpty? c.metadata.namespaceName = nonEmpty? d.metadata.namespaceName :=
    congrArg Effect.namespaceName same
  rw [requireNamespace, requireNamespace, requireName_congr_effect same, ns]

theorem configData_congr_effect (same : c.effect = d.effect) (name : String) (settings : Settings) :
    configData name c.spec settings = configData name d.spec settings := by
  have version : c.spec.version = d.spec.version := congrArg Cluster.Effect.version same
  have options : c.spec.pravega.options = d.spec.pravega.options := congrArg Cluster.Effect.options same
  have zookeeper : c.spec.zookeeperUri = d.spec.zookeeperUri := congrArg Cluster.Effect.zookeeperUri same
  have flags : javaFlags name c.spec settings = javaFlags name d.spec settings := by
    rw [javaFlags, javaFlags, gatedFlags, gatedFlags, version, options]
  rw [configData, configData, flags, zookeeper]

theorem controllerContainer_congr_effect (same : c.effect = d.effect) (name : String) (settings : Settings) :
    controllerContainer name c.spec settings = controllerContainer name d.spec settings := by
  have resources : c.spec.pravega.controllerResources = d.spec.pravega.controllerResources :=
    congrArg Cluster.Effect.resources same
  have reference : (c.spec.pravega.image.getD {}).reference c.spec.version =
      (d.spec.pravega.image.getD {}).reference d.spec.version := congrArg Cluster.Effect.imageReference same
  have policy : (c.spec.pravega.image.getD {}).pullPolicyOrDefault = (d.spec.pravega.image.getD {}).pullPolicyOrDefault :=
    congrArg Cluster.Effect.pullPolicy same
  unfold controllerContainer
  simp only [resources, reference, policy]

theorem basePodSpec_congr_effect (same : c.effect = d.effect) (name : String) (settings : Settings) :
    basePodSpec name c.spec settings = basePodSpec name d.spec settings := by
  have account : nonEmpty? c.spec.pravega.controllerServiceAccountName =
      nonEmpty? d.spec.pravega.controllerServiceAccountName := congrArg Cluster.Effect.serviceAccount same
  rw [basePodSpec, basePodSpec, controllerContainer_congr_effect same, account]

theorem podSpec_congr_effect (same : c.effect = d.effect) (settings : Settings) :
    podSpec c settings = podSpec d settings := by
  have demand : TlsSpec.demand? c.spec.tls = TlsSpec.demand? d.spec.tls := congrArg Cluster.Effect.tls same
  unfold podSpec
  simp only [PodSpec.withTls_eq, Cluster.requireName_congr_effect same, basePodSpec_congr_effect same, demand]

theorem ControllerObjects.made_congr_effect (same : c.effect = d.effect) (settings : Settings) (name ns : String)
    (pod : PodSpec) : made c settings name ns pod = made d settings name ns pod := by
  have version : c.spec.version = d.spec.version := congrArg Cluster.Effect.version same
  have replicas : c.spec.pravega.controllerReplicas = d.spec.pravega.controllerReplicas :=
    congrArg Cluster.Effect.replicas same
  have type : c.externalServiceType? = d.externalServiceType? := congrArg Cluster.Effect.serviceType same
  rw [made, made, configData_congr_effect same, version, replicas, type]

/-- **Synthesis depends on the effect of a cluster alone.** -/
theorem synthesize_congr_effect (same : c.effect = d.effect) (settings : Settings) :
    synthesize c settings = synthesize d settings := by
  simp only [synthesize_eq, Cluster.requireName_congr_effect same, Cluster.requireNamespace_congr_effect same,
    podSpec_congr_effect same, ControllerObjects.made_congr_effect same]

/-! ### Parts that count -/

theorem nonEmpty?_nonEmpty? (text : Option String) : nonEmpty? (nonEmpty? text) = nonEmpty? text := by
  simp [nonEmpty?, Option.filter_filter]

/-- A part that is kept and rewritten stays as it is when this is done again. -/
theorem kept_kept {α : Type} (keeps : α → Bool) (rewrite : α → α)
    (kept : ∀ a, keeps a = true → keeps (rewrite a) = true) (settled : ∀ a, rewrite (rewrite a) = rewrite a)
    (part : Option α) :
    (((part.filter keeps).map rewrite).filter keeps).map rewrite = (part.filter keeps).map rewrite := by
  cases part with
  | none => rfl
  | some a =>
    by_cases keep : keeps a = true
    · simp [Option.filter_some, keep, kept a keep, settled a]
    · simp [Option.filter_some, keep]

namespace TlsSpec

/-- The settings without a secret that is empty. -/
def withoutEmpty (t : TlsSpec) : TlsSpec :=
  { t with controllerSecret := nonEmpty? t.controllerSecret }

/-- TLS settings, if they are enabled. -/
def reduced (tls : Option TlsSpec) : Option TlsSpec :=
  (tls.filter enabled).map withoutEmpty

theorem reduced_reduced (tls : Option TlsSpec) : reduced (reduced tls) = reduced tls := by
  have settled (t : TlsSpec) : t.withoutEmpty.withoutEmpty = t.withoutEmpty := by
    simp only [withoutEmpty, nonEmpty?_nonEmpty?]
  exact kept_kept enabled withoutEmpty (fun _ on => on) settled tls

theorem demand?_reduced (tls : Option TlsSpec) : demand? (reduced tls) = demand? tls := by
  cases tls with
  | none => rfl
  | some t =>
    by_cases on : t.enabled = true
    · simp [demand?, reduced, withoutEmpty, Option.filter_some, on, nonEmpty?_nonEmpty?]
    · simp [demand?, reduced, Option.filter_some, on]

end TlsSpec

namespace ExternalAccess

/-- The settings with the type that is used. -/
def withType (a : ExternalAccess) : ExternalAccess :=
  { a with type := some (a.type.getD .loadBalancer) }

/-- Access settings, if they are enabled. -/
def reduced (access : Option ExternalAccess) : Option ExternalAccess :=
  (access.filter enabled).map withType

theorem reduced_reduced (access : Option ExternalAccess) : reduced (reduced access) = reduced access :=
  kept_kept enabled withType (fun _ on => on) (fun _ => rfl) access

theorem serviceType?_reduced (access : Option ExternalAccess) :
    (reduced access).bind serviceType? = access.bind serviceType? := by
  cases access with
  | none => rfl
  | some a =>
    by_cases on : a.enabled = true
    · simp [reduced, withType, serviceType?, Option.filter_some, on]
    · simp [reduced, serviceType?, Option.filter_some, on]

end ExternalAccess

/-- The text, or the other one if it is empty. -/
def textOr (fallback text : String) : String :=
  if text = "" then fallback else text

@[simp] theorem textOr_empty (fallback : String) : textOr fallback "" = fallback := rfl

@[simp] theorem textOr_self (fallback : String) : textOr fallback fallback = fallback := by
  unfold textOr
  split <;> rfl

@[simp] theorem textOr_textOr (fallback text : String) : textOr fallback (textOr fallback text) = textOr fallback text := by
  unfold textOr
  split
  · split <;> rfl
  · rfl

theorem getD_nonEmpty? (text : Option String) (fallback : String) :
    (nonEmpty? text).getD fallback = textOr fallback (text.getD "") := by
  cases text with
  | none => rfl
  | some t => by_cases empty : t = "" <;> simp [nonEmpty?, textOr, Option.filter_some, empty]

/-- Where a text stands in for an empty one, it stands in for an absent one too. -/
theorem textOr_getD_map (fallback : String) (text : Option String) :
    textOr fallback ((text.map (textOr fallback)).getD "") = textOr fallback (text.getD "") := by
  cases text with
  | none => rfl
  | some t => exact textOr_textOr fallback t

namespace ImageSpec

variable {version : String}

/-- The image with the defaults in place of texts that are empty. -/
def withDefaults (version : String) (i : ImageSpec) : ImageSpec where
  repository := i.repository.map (textOr defaultRepository)
  tag := i.tag.map (textOr version)
  pullPolicy := i.pullPolicy.map (textOr defaultPullPolicy)

/-- The image of the defaults. -/
def ofDefaults (version : String) : ImageSpec where
  repository := some defaultRepository
  tag := some version
  pullPolicy := some defaultPullPolicy

/-- The image with the defaults in place of empty texts; without an image, the one of the
defaults. -/
def reduced (version : String) (image : Option ImageSpec) : ImageSpec :=
  (image.map (withDefaults version)).getD (ofDefaults version)

/-- The image with the defaults in place of empty and of absent texts. -/
def filled (version : String) (image : Option ImageSpec) : ImageSpec where
  repository := some (textOr defaultRepository ((image.bind repository).getD ""))
  tag := some (textOr version ((image.bind tag).getD ""))
  pullPolicy := some (textOr defaultPullPolicy ((image.bind pullPolicy).getD ""))

/-- What the reference of an image is made from. -/
theorem reference_eq (i : ImageSpec) (version : String) : i.reference version =
    textOr defaultRepository (i.repository.getD "") ++ ":" ++ textOr version (i.tag.getD "") := by
  rw [reference, tagOr, getD_nonEmpty?, getD_nonEmpty?]

theorem pullPolicyOrDefault_eq (i : ImageSpec) :
    i.pullPolicyOrDefault = textOr defaultPullPolicy (i.pullPolicy.getD "") :=
  getD_nonEmpty? i.pullPolicy defaultPullPolicy

theorem reference_reduced (image : Option ImageSpec) :
    (reduced version image).reference version = (image.getD {}).reference version := by
  rw [reference_eq, reference_eq]
  cases image with
  | none => simp [reduced, ofDefaults]
  | some i => simp only [reduced, withDefaults, Option.map_some, Option.getD_some, textOr_getD_map]

theorem pullPolicyOrDefault_reduced (image : Option ImageSpec) :
    (reduced version image).pullPolicyOrDefault = (image.getD {}).pullPolicyOrDefault := by
  rw [pullPolicyOrDefault_eq, pullPolicyOrDefault_eq]
  cases image with
  | none => simp [reduced, ofDefaults]
  | some i => simp only [reduced, withDefaults, Option.map_some, Option.getD_some, textOr_getD_map]

theorem reduced_reduced (image : Option ImageSpec) : reduced version (some (reduced version image)) = reduced version image := by
  cases image with
  | none => simp [reduced, withDefaults, ofDefaults]
  | some i => simp [reduced, withDefaults, Function.comp_def]

theorem reference_filled (image : Option ImageSpec) :
    (filled version image).reference version = (image.getD {}).reference version := by
  rw [reference_eq, reference_eq]
  cases image <;> simp [filled]

theorem pullPolicyOrDefault_filled (image : Option ImageSpec) :
    (filled version image).pullPolicyOrDefault = (image.getD {}).pullPolicyOrDefault := by
  rw [pullPolicyOrDefault_eq, pullPolicyOrDefault_eq]
  cases image <;> simp [filled]

theorem filled_filled (image : Option ImageSpec) : filled version (some (filled version image)) = filled version image := by
  simp [filled]

end ImageSpec

/-! ### Clusters in reduced form -/

namespace Cluster

/-- The cluster with all taken out that is switched off or empty, and with the defaults of
its access settings and of its image written down. Parts that an image leaves out stay
out. -/
def reduced (c : Cluster) : Cluster where
  metadata := { name := nonEmpty? c.metadata.name, namespaceName := nonEmpty? c.metadata.namespaceName }
  spec := { c.spec with
    tls := TlsSpec.reduced c.spec.tls
    externalAccess := ExternalAccess.reduced c.spec.externalAccess
    pravega := { c.spec.pravega with
      controllerServiceAccountName := nonEmpty? c.spec.pravega.controllerServiceAccountName
      image := some (ImageSpec.reduced c.spec.version c.spec.pravega.image) } }

/-- The same, with the defaults also for the parts that an image leaves out. -/
def filled (c : Cluster) : Cluster :=
  { c.reduced with spec.pravega.image := some (ImageSpec.filled c.spec.version c.spec.pravega.image) }

/-- **The reduced form has the effect of the cluster.** -/
theorem effect_reduced (c : Cluster) : c.reduced.effect = c.effect := by
  simp only [effect, reduced, externalServiceType?, nonEmpty?_nonEmpty?, TlsSpec.demand?_reduced,
    ExternalAccess.serviceType?_reduced, Option.getD_some, ImageSpec.reference_reduced,
    ImageSpec.pullPolicyOrDefault_reduced]

/-- So it has with a full image. -/
theorem effect_filled (c : Cluster) : c.filled.effect = c.effect := by
  simp only [effect, filled, reduced, externalServiceType?, nonEmpty?_nonEmpty?, TlsSpec.demand?_reduced,
    ExternalAccess.serviceType?_reduced, Option.getD_some, ImageSpec.reference_filled,
    ImageSpec.pullPolicyOrDefault_filled]

/-- **What is reduced stays as it is.** -/
theorem reduced_reduced (c : Cluster) : c.reduced.reduced = c.reduced := by
  simp only [reduced, nonEmpty?_nonEmpty?, TlsSpec.reduced_reduced, ExternalAccess.reduced_reduced,
    ImageSpec.reduced_reduced]

theorem filled_filled (c : Cluster) : c.filled.filled = c.filled := by
  simp only [filled, reduced, nonEmpty?_nonEmpty?, TlsSpec.reduced_reduced, ExternalAccess.reduced_reduced,
    ImageSpec.filled_filled]

end Cluster

/-- **What is switched off or empty might as well be absent.** Synthesis makes the same of
a cluster and of its reduced form, or fails with the same fault, and the same holds if
the image is filled in as well; both forms are final. -/
theorem synthesize_reduced (c : Cluster) (settings : Settings) :
    synthesize c.reduced settings = synthesize c settings ∧ c.reduced.reduced = c.reduced ∧
      synthesize c.filled settings = synthesize c settings ∧ c.filled.filled = c.filled :=
  ⟨synthesize_congr_effect c.effect_reduced settings, c.reduced_reduced,
    synthesize_congr_effect c.effect_filled settings, c.filled_filled⟩

/-- A secret of TLS that is off, access without a type, an account and a repository that
are empty, and a tag that is left out. -/
example : (Cluster.reduced {
      metadata := { name := some "demo", namespaceName := some "", uid := some "1" }
      spec := {
        version := "0.5.0"
        zookeeperUri := "zk:2181"
        tls := some { controllerSecret := some "tls" }
        externalAccess := some { enabled := true }
        pravega := { controllerServiceAccountName := some "", image := some { repository := some "" } } } }) = {
    metadata := { name := some "demo" }
    spec := {
      version := "0.5.0"
      zookeeperUri := "zk:2181"
      externalAccess := some { enabled := true, type := some .loadBalancer }
      pravega := { image := some { repository := some "pravega/pravega" } } } } := by
  decide

end ControllerSynthesis
