/-
# Selectors and the pods they select

The labels of a component carry the name of its cluster and its role. A selector that
asks for all labels of a component, and one that asks for these two alone, therefore
select the same pods: those of this component of this cluster, whatever the names have
in common with each other, with roles or with other labels. The names of the objects
tell clusters apart as well, as the role behind them is fixed.

Key theorems: `Labels.includes_iff`, `Naming.includes_labels_iff`,
`Naming.selects_antiAffinity_iff`, `Naming.resourceName_inj`,
`selectors_address_own_pods`.
-/
import ControllerSynthesis.Proofs.KeyMap
import ControllerSynthesis.Proofs.Synthesis.Pod

namespace ControllerSynthesis

/-! ### Selectors -/

/-- Labels include others if they give them the same values. -/
theorem Labels.includes_iff {labels wanted : Labels} : Labels.includes labels wanted = true ↔
    ∀ key value, wanted.get? key = some value → labels.get? key = some value := by
  simp [Labels.includes, ← KeyMap.mem_entries_iff]

/-- A requirement selects labels that have one of its values. -/
theorem LabelRequirement.selects_iff {q : LabelRequirement} {labels : Labels} :
    q.selects labels = true ↔ ∃ value ∈ q.values, labels.get? q.key = some value := by
  unfold selects
  cases labels.get? q.key <;> simp [eq_comm]

namespace Naming

variable {cluster other role otherRole : String}

theorem get?_clusterLabel (cluster role : String) : (labels cluster role).get? clusterLabel = some cluster := by
  simp [labels, KeyMap.ofList, clusterLabel, roleLabel]

theorem get?_roleLabel (cluster role : String) : (labels cluster role).get? roleLabel = some role := by
  simp [labels, KeyMap.ofList, clusterLabel, roleLabel]

/-- **All labels of a component** are those of no other component of any cluster. -/
theorem includes_labels_iff : Labels.includes (labels other otherRole) (labels cluster role) = true ↔
    cluster = other ∧ role = otherRole := by
  constructor
  · intro included
    have wanted := Labels.includes_iff.mp included
    have name := wanted clusterLabel cluster (get?_clusterLabel cluster role)
    have part := wanted roleLabel role (get?_roleLabel cluster role)
    rw [get?_clusterLabel, Option.some.injEq] at name
    rw [get?_roleLabel, Option.some.injEq] at part
    exact ⟨name.symm, part.symm⟩
  · rintro ⟨rfl, rfl⟩
    exact Labels.includes_iff.mpr fun _ _ found => found

theorem selects_selector_iff : (selector cluster role).selects (labels other otherRole) = true ↔
    cluster = other ∧ role = otherRole := by
  rw [← includes_labels_iff]
  simp [LabelSelector.selects, selector]

/-- **Its name and its role** are enough to tell a component from all others. -/
theorem selects_antiAffinity_iff {settings : Settings} {term : AvoidanceTerm}
    (mem : term ∈ (antiAffinity role cluster settings).preferred) :
    term.selector.selects (labels other otherRole) = true ↔ cluster = other ∧ role = otherRole := by
  rw [antiAffinity, List.mem_singleton] at mem
  subst mem
  simp only [LabelSelector.selects, Option.getD_some, Option.getD_none, List.all_cons, List.all_nil,
    Bool.and_true, Bool.and_eq_true, LabelRequirement.selects_iff, Labels.includes_iff, KeyMap.get?_empty,
    get?_roleLabel, get?_clusterLabel, List.mem_singleton, Option.some.injEq, exists_eq_left]
  simp [eq_comm, and_comm]

/-- Objects of one role have one name only if they are of one cluster. -/
theorem resourceName_inj : resourceName cluster role = resourceName other role ↔ cluster = other := by
  rw [resourceName, resourceName, String.append_left_inj, String.append_left_inj]

end Naming

/-! ### What synthesis makes -/

/-- **Selectors address exactly the pods of their own cluster.** Each selector of the
objects of one cluster selects the pods of another if and only if the clusters have the
same name. All labels and selectors of one cluster are one map, and objects of a kind
have the same name if and only if their clusters do. -/
theorem selectors_address_own_pods {a b : Cluster} {s t : Settings} {ra rb : ControllerObjects}
    (madeA : synthesize a s = .ok ra) (madeB : synthesize b t = .ok rb) :
    (∃ (pods : Labels) (term : AvoidanceTerm),
      rb.deployment.template.metadata.labels = some pods ∧
      ra.deployment.template.spec.affinity = some ⟨[term]⟩ ∧
      (ra.deployment.selector.selects pods = true ↔ a.metadata.name = b.metadata.name) ∧
      (Labels.includes pods ra.service.selector = true ↔ a.metadata.name = b.metadata.name) ∧
      (ra.disruptionBudget.selector.selects pods = true ↔ a.metadata.name = b.metadata.name) ∧
      (term.selector.selects pods = true ↔ a.metadata.name = b.metadata.name)) ∧
    (∃ own : Labels, (∀ m ∈ ra.metadatas, m.labels = some own) ∧
      ra.deployment.template.metadata.labels = some own ∧
      ra.deployment.selector.matchLabels = some own ∧
      ra.service.selector = own ∧
      ra.disruptionBudget.selector.matchLabels = some own) ∧
    (ra.configMap.metadata.name = rb.configMap.metadata.name ↔ a.metadata.name = b.metadata.name) ∧
    (ra.service.metadata.name = rb.service.metadata.name ↔ a.metadata.name = b.metadata.name) ∧
    (ra.deployment.metadata.name = rb.deployment.metadata.name ↔ a.metadata.name = b.metadata.name) ∧
    (ra.disruptionBudget.metadata.name = rb.disruptionBudget.metadata.name ↔
      a.metadata.name = b.metadata.name) := by
  obtain ⟨name, ns, pod, named, -, podMade, rfl⟩ := synthesize_eq_ok.mp madeA
  obtain ⟨other, ns', pod', namedB, -, -, rfl⟩ := synthesize_eq_ok.mp madeB
  have sameName : a.metadata.name = b.metadata.name ↔ name = other := by
    rw [(Cluster.requireName_eq_ok.mp named).1, (Cluster.requireName_eq_ok.mp namedB).1, Option.some.injEq]
  have sameObject : some (Naming.resourceName name Naming.controllerRole) =
      some (Naming.resourceName other Naming.controllerRole) ↔ name = other := by
    rw [Option.some.injEq, Naming.resourceName_inj]
  rw [sameName]
  refine ⟨⟨Naming.labels other Naming.controllerRole, _, rfl, (podSpec_cases named podMade).1, ?_, ?_, ?_, ?_⟩,
    ⟨Naming.labels name Naming.controllerRole, ?_, rfl, rfl, rfl, rfl⟩, sameObject, sameObject, sameObject, sameObject⟩
  · simp [ControllerObjects.made, Naming.selects_selector_iff]
  · simp [ControllerObjects.made, Naming.includes_labels_iff]
  · simp [ControllerObjects.made, Naming.selects_selector_iff]
  · exact (Naming.selects_antiAffinity_iff (List.mem_singleton_self _)).trans (and_iff_left rfl)
  · rw [ControllerObjects.metadatas_made]
    intro m mem
    rw [List.eq_of_mem_replicate mem, Naming.metadata]

/-- A cluster of that name. -/
def called (name : String) : Cluster where
  metadata := { name := some name, namespaceName := some "pravega" }
  spec := { version := "0.5.0", zookeeperUri := "zk:2181", pravega := { controllerResources := some {} } }

/-- A cluster that is named like a role, and one that is named like the application and
like the start of that role. -/
theorem selectors_address_own_pods_role : ∃ ra rb pods term,
    synthesize (called "pravega-controller") {} = .ok ra ∧ synthesize (called "pravega") {} = .ok rb ∧
      rb.deployment.template.metadata.labels = some pods ∧
      ra.deployment.template.spec.affinity = some ⟨[term]⟩ ∧
      ra.deployment.selector.selects pods = false ∧ Labels.includes pods ra.service.selector = false ∧
      ra.disruptionBudget.selector.selects pods = false ∧ term.selector.selects pods = false ∧
      ra.service.metadata.name ≠ rb.service.metadata.name := by
  obtain ⟨ra, madeA⟩ : ∃ r, synthesize (called "pravega-controller") {} = .ok r := ⟨_, rfl⟩
  obtain ⟨rb, madeB⟩ : ∃ r, synthesize (called "pravega") {} = .ok r := ⟨_, rfl⟩
  obtain ⟨⟨pods, term, labels, affinity, selection⟩, -, -, names, -⟩ := selectors_address_own_pods madeA madeB
  have different : (called "pravega-controller").metadata.name ≠ (called "pravega").metadata.name := by decide
  simp only [different, iff_false, Bool.not_eq_true] at selection names
  exact ⟨ra, rb, pods, term, madeA, madeB, labels, affinity, selection.1, selection.2.1, selection.2.2.1,
    selection.2.2.2, names⟩

end ControllerSynthesis
