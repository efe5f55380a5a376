/-
# The kind of a manifest

The document of a manifest may say under two keys which version and kind of resource it
is. They are not looked at when a cluster is read: whatever stands there, and whether
anything does, the outcome is the same. What makes a document a cluster are the entries
that must be there: its metadata, and a specification with a version and a ZooKeeper
address. What is read is of the one version and kind that clusters are written with.

Key definitions: `Manifest.kindKeys`, `Manifest.HasRequired`.
Key theorems: `Manifest.hasRequired_of_read`, `Manifest.read_alike`,
`Manifest.read_write_of_kind`, `Manifest.read_regardless_of_kind`.
-/
import ControllerSynthesis.Proofs.Manifest.Namespace
import ControllerSynthesis.Proofs.Record.Entries

namespace ControllerSynthesis.Manifest

open Record (AlikeBut Exceeds)

/-- The keys under which a document says which version and kind of resource it is. -/
def kindKeys : List String := ["apiVersion", "kind"]

/-- Whether a document has metadata and a specification, with the version and the
ZooKeeper address of the cluster. -/
def HasRequired (document : Yaml.Document) (c : Cluster) : Prop :=
  (∃ metadata, (some "metadata", metadata) ∈ document.root.labelled document.root.anchored) ∧
    ∃ spec, (some "spec", spec) ∈ document.root.labelled document.root.anchored ∧
      spec.Says document.root.anchored "version" c.spec.version ∧
      spec.Says document.root.anchored "zookeeperUri" c.spec.zookeeperUri

/-! ### What must be there -/

/-- A cluster is read where the document decodes to its value. -/
theorem run_of_read {text : String} {given : Option String} {c : Cluster} (loaded : read text given = .ok c) :
    ∃ left rest value, (Cluster.shape.decode (Record.yamlFormat (Yaml.Document.ofText text).root.anchored)
      ⟨(Yaml.Document.ofText text).root, 0⟩).run left = .ok (value, rest) ∧
        place given (Cluster.ofJson value) = c := by
  obtain ⟨value, decoded, same⟩ := map_eq_ok.mp loaded
  rw [Record.Shape.ofYaml, Record.ofDocument_eq] at decoded
  obtain ⟨made, decoded, concluded⟩ := bind_eq_ok.mp decoded
  obtain ⟨⟨own, rest⟩, run, rfl⟩ := map_eq_ok.mp decoded
  have kept : own = value := by
    unfold Record.conclude at concluded
    split at concluded
    · exact Except.ok.inj concluded
    · cases concluded
    · cases concluded
  exact ⟨_, rest, own, run, kept ▸ same⟩

/-- **Where a cluster is read, its document has what every cluster must have.** -/
theorem hasRequired_of_read {text : String} {given : Option String} {c : Cluster}
    (loaded : read text given = .ok c) : HasRequired (Yaml.Document.ofText text) c := by
  obtain ⟨left, rest, value, run, rfl⟩ := run_of_read loaded
  rw [Cluster.shape_eq] at run
  have metadataRule : Cluster.fields.find? "metadata" = some (.required, Metadata.shape) := rfl
  have specRule : Cluster.fields.find? "spec" = some (.required, ClusterSpec.shape) := rfl
  obtain ⟨metadata, hasMetadata, -⟩ := Record.required_of_run run metadataRule
  obtain ⟨spec, hasSpec, before, after, decoded⟩ := Record.required_of_run run specRule
  refine ⟨⟨metadata, hasMetadata⟩, spec, hasSpec, ?_, ?_⟩
  · exact Record.says_of_run decoded rfl
  · exact Record.says_of_run decoded rfl

/-! ### What does not matter -/

theorem kindKeys_not_mem_keys : ∀ key ∈ kindKeys, key ∉ Cluster.fields.keys := by decide

/-- **Documents that differ in their version and kind only are read alike**, unless
aliases are followed too often in one of them. -/
theorem read_alike {text other : String} (given : Option String)
    (alike : AlikeBut kindKeys (Yaml.Document.ofText text) (Yaml.Document.ofText other)) :
    read text given = read other given ∨ Exceeds Cluster.shape (Yaml.Document.ofText text) ∨
      Exceeds Cluster.shape (Yaml.Document.ofText other) := by
  unfold read Record.Shape.ofYaml
  rw [Cluster.shape_eq]
  rcases Record.ofDocument_alike kindKeys_not_mem_keys alike with same | exceeds
  · left
    rw [same]
  · exact .inr exceeds

/-- The manifest of a cluster is read as the cluster, whatever it gives as its version and
kind. -/
theorem read_write_of_kind {c : Cluster} (plain : c.IsPlain) {marks : List (String × Json)}
    (kinds : ∀ m ∈ marks, m.1 ∈ kindKeys) (integral : Json.membersIntegral marks = true) (given : Option String) :
    read (Yaml.write (.obj (marks ++ c.members))) given = .ok (place given c) :=
  read_write_behind plain.isReadable (fun m mem => kindKeys_not_mem_keys m.1 (kinds m mem))
    (Json.membersExact_of_membersIntegral integral) given

/-- **A cluster is read of any document with what a cluster must have, whatever kind it is
said to be.** Where one is read, its document has metadata and a specification with the
version and the address of the cluster, and the cluster is of the version and kind of
clusters. The outcome is the same for any two documents that differ in nothing but the
version and kind they give, or whether they give them, unless aliases are followed too
often in one of them. And the manifest of a cluster is read as the cluster with anything
in place of its version and kind. -/
theorem read_regardless_of_kind (text : String) (given : Option String) :
    (∀ c, read text given = .ok c → HasRequired (Yaml.Document.ofText text) c ∧
      c.toJson.get "apiVersion" = .str "pravega.pravega.io/v1alpha1" ∧ c.toJson.get "kind" = .str "PravegaCluster") ∧
    (∀ other, AlikeBut kindKeys (Yaml.Document.ofText text) (Yaml.Document.ofText other) →
      read text given = read other given ∨ Exceeds Cluster.shape (Yaml.Document.ofText text) ∨
        Exceeds Cluster.shape (Yaml.Document.ofText other)) ∧
    ∀ (c : Cluster) (marks : List (String × Json)), c.IsPlain → (∀ m ∈ marks, m.1 ∈ kindKeys) →
      Json.membersIntegral marks = true → read (Yaml.write (.obj (marks ++ c.members))) given = .ok (place given c) := by
  refine ⟨?_, ?_, ?_⟩
  · intro c loaded
    exact ⟨hasRequired_of_read loaded, rfl, rfl⟩
  · intro other alike
    exact read_alike given alike
  · intro c marks plain kinds integral
    exact read_write_of_kind plain kinds integral given

/-- The members that say a document is a deployment. -/
def deploymentMarks : List (String × Json) := [("apiVersion", .str "apps/v1"), ("kind", .str "Deployment")]

/-- What a cluster has, said to be a deployment. -/
def disguised : String := Yaml.write (.obj (deploymentMarks ++ housed.members))

theorem ofText_disguised :
    Yaml.Document.ofText disguised = ⟨.ofJson (.obj (deploymentMarks ++ housed.members)), .clean⟩ :=
  Yaml.Document.ofText_write rfl (List.cons_ne_nil _ _)

theorem ofText_housed : Yaml.Document.ofText (write housed) = ⟨.ofJson housed.toJson, .clean⟩ :=
  Yaml.Document.ofText_write rfl (List.cons_ne_nil _ _)

theorem alike_disguised :
    AlikeBut kindKeys (Yaml.Document.ofText disguised) (Yaml.Document.ofText (write housed)) := by
  rw [ofText_disguised, ofText_housed]
  exact ⟨⟨_, _, _, _, rfl, rfl, rfl⟩, rfl, rfl⟩

theorem read_disguised : read disguised none = .ok housed :=
  read_write_of_kind isPlain_housed (by decide) rfl none

theorem read_regardless_of_kind_disguised :
    (read disguised none = .ok housed ∧ HasRequired (Yaml.Document.ofText disguised) housed ∧
      housed.toJson.get "apiVersion" = .str "pravega.pravega.io/v1alpha1" ∧
      housed.toJson.get "kind" = .str "PravegaCluster") ∧
    AlikeBut kindKeys (Yaml.Document.ofText disguised) (Yaml.Document.ofText (write housed)) ∧
      (read disguised none = read (write housed) none ∨ Exceeds Cluster.shape (Yaml.Document.ofText disguised) ∨
        Exceeds Cluster.shape (Yaml.Document.ofText (write housed))) := by
  obtain ⟨required, same, accepted⟩ := read_regardless_of_kind disguised none
  have loaded : read disguised none = .ok housed := accepted housed deploymentMarks isPlain_housed (by decide) rfl
  exact ⟨⟨loaded, required housed loaded⟩, alike_disguised, same _ alike_disguised⟩

/-- A deployment is read as a cluster if it has what a cluster must have. -/
theorem read_deployment : read disguised none = .ok housed ∧
    (Yaml.Document.ofText disguised).root.Says (Yaml.Document.ofText disguised).root.anchored "kind" "Deployment" ∧
    ¬(Yaml.Document.ofText disguised).root.Says (Yaml.Document.ofText disguised).root.anchored "kind"
      "PravegaCluster" ∧
    ¬(Yaml.Document.ofText disguised).root.Says (Yaml.Document.ofText disguised).root.anchored "apiVersion"
      "pravega.pravega.io/v1alpha1" := by
  rw [ofText_disguised]
  refine ⟨read_disguised, ?_, ?_, ?_⟩
  · decide
  · decide
  · decide

end ControllerSynthesis.Manifest
