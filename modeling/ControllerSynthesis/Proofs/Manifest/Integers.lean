/-
# Integers pass through exactly or are refused

The counts of a cluster cross many hands: their digits are read, in JSON or in YAML, they
are checked against a width, copied from record to record, written, and read again. On
the way nothing is wrapped, rounded or brought into range. An integer that fits comes out
as it went in, and any other is refused, wherever it stands.

The deployment of a cluster asks for the replicas that the cluster asks for, and so does
its document when it is read again.

Key definitions: `Manifest.counting`, `Manifest.fillCounts`, `Manifest.Deploys`.
Key theorems: `Manifest.integer_of_read`, `Manifest.read_write_iff`,
`Manifest.deploys_of_sized`, `Manifest.integers_exact_or_refused`.
-/
import ControllerSynthesis.Proofs.Cluster.Counts
import ControllerSynthesis.Proofs.Manifest.Kind
import ControllerSynthesis.Proofs.Manifest.Stream
import ControllerSynthesis.Proofs.Synthesis.Required

namespace ControllerSynthesis.Manifest

open Record
open Cluster (replicasPath observedPath readyPath)

variable {c : Cluster} {given : Option String}

/-! ### Integers in any manifest -/

/-- **An integer in a manifest that is read is read as it stands.** -/
theorem integer_of_read {text : String} {n : Int} {path : List String} {width : Width}
    (leads : Cluster.shape.at? path = some (.integer width)) (loaded : read text given = .ok c)
    (stands : (Yaml.Document.ofText text).root.Stands (Yaml.Document.ofText text).root.anchored n path) :
    width.holds n = true ∧ ∃ value, c = place given (Cluster.ofJson value) ∧ path.foldl Json.get value = .int n := by
  obtain ⟨left, rest, value, run, same⟩ := run_of_read loaded
  obtain ⟨holds, integer⟩ := integer_of_run leads stands run
  exact ⟨holds, value, same.symm, integer⟩

/-! ### Manifests of clusters -/

/-- The cluster with zero for its counts. -/
def sizing (c : Cluster) : Cluster :=
  { c with
    spec.pravega.controllerReplicas := 0
    status := c.status.map fun s => { s with
      observedGeneration := s.observedGeneration.map fun _ => 0
      controllerReadyReplicas := s.controllerReadyReplicas.map fun _ => 0 } }

theorem isSized_sizing (c : Cluster) : (sizing c).IsSized := by
  refine Cluster.forall_mem_counts.mpr ⟨rfl, fun s mem => ?_⟩
  obtain ⟨own, -, rfl⟩ := Option.map_eq_some_iff.mp mem
  constructor
  · intro n mem
    obtain ⟨-, -, rfl⟩ := Option.map_eq_some_iff.mp mem
    rfl
  · intro n mem
    obtain ⟨-, -, rfl⟩ := Option.map_eq_some_iff.mp mem
    rfl

/-- The manifest of a cluster holds no numbers but integers, whatever its counts. -/
theorem membersExact_members (readable : c.metadata.IsReadable readsAny 2) :
    Json.membersExact c.members = true := by
  obtain ⟨replicas, status⟩ := Cluster.isSized_iff.mp (isSized_sizing c)
  -- With counts that do not fit, the members of the cluster itself are not canonical.
  have canonical : Cluster.fields.Canonical readsAny 1 (sizing c).members :=
    Cluster.canonical_members ⟨readable, replicas, status⟩
  have same : Json.membersExact c.members = Json.membersExact (sizing c).members := by
    rcases c with ⟨metadata, spec, - | ⟨conditions, - | observed, - | ready⟩⟩ <;> rfl
  rw [same, Json.membersExact_of_membersIntegral canonical.membersIntegral]

/-- **The manifest of a cluster is read** exactly if its counts fit into their widths. -/
theorem read_write_iff (readable : c.metadata.IsReadable readsAny 2) (given : Option String) :
    ((∃ loaded, read (write c) given = .ok loaded) ↔ c.IsSized) ∧
      ∀ loaded, read (write c) given = .ok loaded → loaded = place given c := by
  have document : Yaml.Document.ofText (write c) = ⟨.ofJson c.toJson, .clean⟩ := by
    rw [write, Cluster.toJson_eq]
    refine Yaml.Document.ofText_write ?_ (List.cons_ne_nil _ _)
    simpa [Json.membersExact, Json.isExact] using membersExact_members readable
  have fit : (∃ loaded, read (write c) given = .ok loaded) → c.IsSized := by
    rintro ⟨loaded, same⟩ count mem
    have stands : (Yaml.Document.ofText (write c)).root.Stands (Yaml.Document.ofText (write c)).root.anchored
        count.value count.path := by
      rw [document]
      exact stands_ofJson _ (Cluster.get_path count mem)
    exact (integer_of_read (Cluster.at?_path count mem) same stands).1
  have loads (sized : c.IsSized) : read (write c) given = .ok (place given c) := by
    obtain ⟨replicas, status⟩ := Cluster.isSized_iff.mp sized
    exact read_write_readable ⟨readable, replicas, status⟩ given
  refine ⟨⟨fit, fun sized => ⟨_, loads sized⟩⟩, fun loaded same => ?_⟩
  cases same.symm.trans (loads (fit ⟨loaded, same⟩))
  rfl

/-- The cluster with these counts. -/
def counting (replicas observed ready : Int) (c : Cluster) : Cluster :=
  { c with
    spec.pravega.controllerReplicas := replicas
    status := some { c.status.getD {} with
      observedGeneration := some observed
      controllerReadyReplicas := some ready } }

/-- A manifest with the digits of integers in place of its counts. -/
def fillCounts (head body : String) (replicas observed ready : Int) : String :=
  head ++ "controllerReplicas: " ++ Digits.text replicas ++ "\n" ++ body ++ "observedGeneration: " ++
    Digits.text observed ++ "\n  controllerReadyReplicas: " ++ Digits.text ready ++ "\n"

theorem isSized_counting (replicas observed ready : Int) (c : Cluster) :
    (counting replicas observed ready c).IsSized ↔
      Width.i32.holds replicas = true ∧ Width.i64.holds observed = true ∧ Width.i32.holds ready = true := by
  rw [Cluster.IsSized, Cluster.forall_mem_counts]
  simp [counting]

/-- An integer behind its key, on a line of its own. -/
theorem writeEntry_int (key : String) (simple : Yaml.isSimpleKey key = true)
    (plain : Yaml.style key.toList = .plain) (column : Nat) (n : Int) :
    Yaml.writeEntry column key (.int n) = key.toList ++ ": ".toList ++ (Digits.text n).toList ++ ['\n'] := by
  rw [Yaml.writeEntry, if_pos simple, Yaml.writeText, plain]
  simp [Yaml.writeBehindKey, Yaml.writeLeaf, Digits.text]

/-- The value of a cluster with these counts among its other members. -/
def countedJson (marks access others : List (String × Json)) (conditions : Json) (replicas observed ready : Int) : Json :=
  .obj (marks ++ ("spec", .obj (access ++ [("pravega", .obj (("controllerReplicas", .int replicas) :: others))])) ::
    [("status", .obj ([("conditions", conditions)] ++
      [("observedGeneration", .int observed), ("controllerReadyReplicas", .int ready)]))])

theorem exists_fillCounts_of (first second : String × Json) (marks access others : List (String × Json))
    (conditions : Json) : ∃ head body, ∀ replicas observed ready,
      Yaml.write (countedJson (first :: marks) access (second :: others) conditions replicas observed ready) =
        fillCounts head body replicas observed ready := by
  obtain ⟨front, whole⟩ := Yaml.exists_writeEntries_append 0 (first :: marks)
  obtain ⟨before, spec⟩ := Yaml.exists_writeEntry_obj "spec" (by decide) 0 access
  obtain ⟨opening, pravega⟩ := Yaml.exists_writeEntry_obj "pravega" (by decide) 2 []
  obtain ⟨seen, status⟩ := Yaml.exists_writeEntry_obj "status" (by decide) 0 [("conditions", conditions)]
  refine ⟨String.ofList (front ++ before ++ opening),
    String.ofList (Yaml.pad 4 ++ Yaml.writeEntries 4 (second :: others) ++ Yaml.pad 0 ++ seen),
    fun replicas observed ready => ?_⟩
  have counted (m : String × Json) (back : List (String × Json)) :
      Yaml.writeChars (.obj (first :: marks ++ m :: back)) = Yaml.writeEntries 0 (first :: marks ++ m :: back) := rfl
  have replicasLine := writeEntry_int "controllerReplicas" (by decide) (by decide) 4 replicas
  have observedLine := writeEntry_int "observedGeneration" (by decide) (by decide) 2 observed
  have readyLine := writeEntry_int "controllerReadyReplicas" (by decide) (by decide) 2 ready
  have controller : Yaml.writeEntry 2 "pravega" (.obj (("controllerReplicas", .int replicas) :: second :: others)) =
      opening ++ (Yaml.writeEntry 4 "controllerReplicas" (.int replicas) ++
        (Yaml.pad 4 ++ Yaml.writeEntries 4 (second :: others))) := by
    rw [← Yaml.writeEntries_cons_cons]
    exact pravega _ _
  apply String.toList_injective
  rw [Yaml.write, String.toList_ofList, countedJson, counted, whole, Yaml.writeEntries_cons_cons,
    Yaml.writeEntries_singleton, spec, Yaml.writeEntries_singleton, controller, status, Yaml.writeEntries_cons_cons,
    Yaml.writeEntries_singleton, replicasLine, observedLine, readyLine]
  simp [fillCounts, Yaml.pad]

/-- **The manifest of a cluster is the same for all counts**, but for their digits. -/
theorem exists_fillCounts (c : Cluster) : ∃ head body, ∀ replicas observed ready,
    write (counting replicas observed ready c) = fillCounts head body replicas observed ready :=
  exists_fillCounts_of ("apiVersion", .str Cluster.apiVersion)
    ("controllerResources", (c.spec.pravega.controllerResources.map Resources.toJson).getD .null)
    [("kind", .str Cluster.kind), ("metadata", c.metadata.toJson)]
    [("version", .str c.spec.version), ("zookeeperUri", .str c.spec.zookeeperUri),
      ("tls", (c.spec.tls.map TlsSpec.toJson).getD .null),
      ("externalAccess", (c.spec.externalAccess.map ExternalAccess.toJson).getD .null)]
    [("controllerServiceAccountName", Json.textOrNull c.spec.pravega.controllerServiceAccountName),
      ("image", (c.spec.pravega.image.map ImageSpec.toJson).getD .null),
      ("options", Json.ofKeyMap c.spec.pravega.options)]
    (.arr ((c.status.getD {}).conditions.map Condition.toJson))

/-! ### Deployments -/

/-- Whether a cluster has a deployment of so many replicas. Its document, which is part of
the manifest of the controller's objects, has as many when it is read again. -/
def Deploys (c : Cluster) (settings : Settings) (n : Int) : Prop :=
  ∃ r, synthesize c settings = .ok r ∧ r.deployment.replicas = n ∧ ∃ front back value,
    render r = front ++ "---\n" ++ Yaml.write r.deployment.toJson ++ "---\n" ++ back ∧
      Shape.any.ofYaml (Yaml.write r.deployment.toJson) = .ok value ∧ (value.get "spec").get "replicas" = .int n

/-- The replicas of a deployment are where they were when its value is put in order. -/
theorem replicas_ordered (d : Deployment) : (d.toJson.ordered.get "spec").get "replicas" = .int d.replicas := by
  have spec : d.toJson.ordered.get "spec" = (Json.obj [("replicas", .int d.replicas),
      ("selector", d.selector.toJson), ("template", d.template.toJson)]).ordered :=
    Json.get_ordered (by simp) "spec"
  rw [spec, Json.get_ordered (by simp) "replicas"]
  rfl

/-- **A cluster whose replicas fit is deployed with as many.** -/
theorem deploys_of_holds {settings : Settings} (sized : settings.IsSized)
    (replicas : Width.i32.holds c.spec.pravega.controllerReplicas = true) (has : ∀ field, c.Has field) :
    Deploys c settings c.spec.pravega.controllerReplicas := by
  obtain ⟨r, made⟩ := (synthesize_asks c settings).succeeds_iff.mpr fun field _ => has field
  obtain ⟨-, -, document, -⟩ := isDocument_of_synthesize sized replicas made
  have asked : r.deployment.replicas = c.spec.pravega.controllerReplicas := by
    obtain ⟨name, ns, pod, -, -, -, rfl⟩ := synthesize_eq_ok.mp made
    rfl
  refine ⟨r, made, asked, Yaml.write r.configMap.toJson ++ "---\n" ++ Yaml.write r.service.toJson,
    Yaml.write r.disruptionBudget.toJson, _, by rw [render_eq], document.reads, ?_⟩
  rw [replicas_ordered, asked]

/-! ### All together -/

/-- **Integers pass through exactly or are refused.** The replicas that are asked for and
those that are ready fit into 32 bits with their sign, the generation that was observed
into 64. In JSON, a record is decoded with an integer in place of its count, or with what
the integer's text is read as, exactly if the integer fits. In YAML, an integer that
stands in a manifest that is read fits and is the count. For every cluster there is a
manifest with blanks for its three counts: filled in with any integers it is read, and so
is the cluster's JSON value, exactly if all three fit, and then as the cluster with these
counts. Its deployment has as many replicas, and so has the deployment's document when it
is read again. -/
theorem integers_exact_or_refused :
    (∀ n : Int, (Width.i32.holds n = true ↔ -2 ^ 31 ≤ n ∧ n < 2 ^ 31) ∧
      (Width.i64.holds n = true ↔ -2 ^ 63 ≤ n ∧ n < 2 ^ 63) ∧
      (Width.i64.holds n = true → Json.read? (Digits.text n) = some (.int n))) ∧
    (PravegaSpec.codec.TakesIntegers "controllerReplicas" .i32 (fun p n => { p with controllerReplicas := n }) ∧
      ClusterStatus.codec.TakesIntegers "controllerReadyReplicas" .i32
        (fun s n => { s with controllerReadyReplicas := some n }) ∧
      ClusterStatus.codec.TakesIntegers "observedGeneration" .i64
        (fun s n => { s with observedGeneration := some n })) ∧
    (∀ (text : String) (given : Option String) (c : Cluster), read text given = .ok c → ∀ n : Int,
      let root := (Yaml.Document.ofText text).root
      (root.Stands root.anchored n ["spec", "pravega", "controllerReplicas"] →
        Width.i32.holds n = true ∧ c.spec.pravega.controllerReplicas = n) ∧
      (root.Stands root.anchored n ["status", "controllerReadyReplicas"] →
        Width.i32.holds n = true ∧ ∃ s, c.status = some s ∧ s.controllerReadyReplicas = some n) ∧
      (root.Stands root.anchored n ["status", "observedGeneration"] →
        Width.i64.holds n = true ∧ ∃ s, c.status = some s ∧ s.observedGeneration = some n)) ∧
    ∀ c : Cluster, c.metadata.IsReadable readsAny 2 → ∃ head body, ∀ replicas observed ready : Int,
      let counted := counting replicas observed ready c
      let fit := Width.i32.holds replicas = true ∧ Width.i64.holds observed = true ∧ Width.i32.holds ready = true
      write counted = fillCounts head body replicas observed ready ∧
      (((∃ loaded, Cluster.codec.decode counted.toJson = .ok loaded) ↔ fit) ∧
        ∀ loaded, Cluster.codec.decode counted.toJson = .ok loaded → loaded = counted) ∧
      ∀ given : Option String,
        ((∃ loaded, read (fillCounts head body replicas observed ready) given = .ok loaded) ↔ fit) ∧
        ∀ loaded, read (fillCounts head body replicas observed ready) given = .ok loaded →
          loaded = place given counted ∧
          ∀ settings : Settings, settings.IsSized → (∀ field, (place given c).Has field) →
            Deploys loaded settings replicas := by
  refine ⟨fun n => ⟨Width.holds_i32_iff, Width.holds_i64_iff, fun holds => Json.read?_text (isWordSize_of_holds holds)⟩,
    ⟨PravegaSpec.takesIntegers, ClusterStatus.takesIntegers_ready, ClusterStatus.takesIntegers_observed⟩, ?_, ?_⟩
  · intro text given c loaded n root
    have replicasWidth : Cluster.shape.at? replicasPath = some (.integer .i32) := rfl
    have readyWidth : Cluster.shape.at? readyPath = some (.integer .i32) := rfl
    have observedWidth : Cluster.shape.at? observedPath = some (.integer .i64) := rfl
    refine ⟨fun stands => ?_, fun stands => ?_, fun stands => ?_⟩
    · obtain ⟨holds, value, rfl, integer⟩ := integer_of_read replicasWidth loaded stands
      exact ⟨holds, Cluster.replicas_ofJson integer⟩
    · obtain ⟨holds, value, rfl, integer⟩ := integer_of_read readyWidth loaded stands
      obtain ⟨s, own, -, ready⟩ := Cluster.status_ofJson integer
      exact ⟨holds, s, own, ready rfl⟩
    · obtain ⟨holds, value, rfl, integer⟩ := integer_of_read observedWidth loaded stands
      obtain ⟨s, own, observed, -⟩ := Cluster.status_ofJson integer
      exact ⟨holds, s, own, observed rfl⟩
  · intro c readable
    obtain ⟨head, body, filled⟩ := exists_fillCounts c
    refine ⟨head, body, fun replicas observed ready => ?_⟩
    intro counted fit
    have fits : counted.IsSized ↔ fit := isSized_counting replicas observed ready c
    refine ⟨filled replicas observed ready, ?_, fun given => ?_⟩
    · have decodes := Cluster.decode_toJson_iff (c := counted) readable.ordered
      exact ⟨decodes.1.trans fits, decodes.2⟩
    · have reads := read_write_iff (c := counted) readable given
      rw [← filled]
      refine ⟨reads.1.trans fits, fun loaded same => ?_⟩
      obtain rfl : loaded = place given counted := reads.2 loaded same
      refine ⟨rfl, fun settings sized has => ?_⟩
      have holds : fit := fits.mp (reads.1.mp ⟨_, same⟩)
      refine deploys_of_holds (c := place given counted) sized holds.1 fun field => ?_
      have own := has field
      cases field <;> exact own

/-- A cluster with counts at the ends of their ranges, and one that rounding would change. -/
def extreme : Cluster := counting (2 ^ 31 - 1) (2 ^ 53 + 1) (-2 ^ 31) housed

theorem ofText_extreme : Yaml.Document.ofText (write extreme) = ⟨.ofJson extreme.toJson, .clean⟩ :=
  Yaml.Document.ofText_write rfl (List.cons_ne_nil _ _)

/-- At the ends of the ranges, one beyond them, and where rounding would lose digits. -/
theorem integers_exact_or_refused_housed :
    ((∀ n ∈ [-2 ^ 31, 0, 2 ^ 31 - 1], PravegaSpec.codec.decode (.obj [("controllerReplicas", .int n)]) =
        .ok { controllerReplicas := n }) ∧
      (∀ n ∈ [-2 ^ 31 - 1, 2 ^ 31, 2 ^ 64], ∀ p,
        PravegaSpec.codec.decode (.obj [("controllerReplicas", .int n)]) ≠ .ok p) ∧
      ∀ n ∈ [-2 ^ 63, 2 ^ 53 + 1, 2 ^ 63 - 1], Json.read? (Digits.text n) = some (.int n) ∧
        ClusterStatus.codec.decode (.obj [("observedGeneration", .int n)]) = .ok { observedGeneration := some n }) ∧
    (∃ loaded s, read (write extreme) none = .ok loaded ∧ loaded.spec.pravega.controllerReplicas = 2 ^ 31 - 1 ∧
      loaded.status = some s ∧ s.observedGeneration = some (2 ^ 53 + 1)) ∧
    ∃ head body, write extreme = fillCounts head body (2 ^ 31 - 1) (2 ^ 53 + 1) (-2 ^ 31) ∧
      (∀ replicas ∈ [-2 ^ 31, 0, 2 ^ 31 - 1], ∀ observed ∈ [-2 ^ 63, 2 ^ 53 + 1, 2 ^ 63 - 1], ∃ loaded,
        read (fillCounts head body replicas observed 0) none = .ok loaded ∧
          loaded = counting replicas observed 0 housed ∧ Deploys loaded {} replicas) ∧
      (∀ replicas ∈ [-2 ^ 31 - 1, 2 ^ 31, 2 ^ 64], ∀ loaded,
        read (fillCounts head body replicas 0 0) none ≠ .ok loaded) ∧
      ∀ observed ∈ [-2 ^ 63 - 1, 2 ^ 63], ∀ loaded, read (fillCounts head body 0 observed 0) none ≠ .ok loaded := by
  obtain ⟨ranges, ⟨replicasFit, -, observedFit⟩, anywhere, clusters⟩ := integers_exact_or_refused
  obtain ⟨head, body, filled⟩ := clusters housed isPlain_housed.metadata.isReadable
  have within32 : ∀ n ∈ [-2 ^ 31, 0, 2 ^ 31 - 1], Width.i32.holds n = true := by decide
  have within64 : ∀ n ∈ [-2 ^ 63, 2 ^ 53 + 1, 2 ^ 63 - 1], Width.i64.holds n = true := by decide
  have beyond32 : ∀ n ∈ [-2 ^ 31 - 1, 2 ^ 31, 2 ^ 64], Width.i32.holds n ≠ true := by decide
  have beyond64 : ∀ n ∈ [-2 ^ 63 - 1, 2 ^ 63], Width.i64.holds n ≠ true := by decide
  have has : ∀ field, (place none housed).Has field := by
    intro field
    cases field <;> decide
  have loads (replicas observed ready : Int) := ((filled replicas observed ready).2.2 none).1
  have deploys (replicas observed ready : Int) := ((filled replicas observed ready).2.2 none).2
  refine ⟨⟨?_, ?_, ?_⟩, ?_, head, body, (filled _ _ _).1, ?_, ?_, ?_⟩
  · intro n mem
    obtain ⟨p, decoded⟩ := (replicasFit.decodes [] {} rfl n (.int n) (.inl rfl)).mpr (within32 n mem)
    cases replicasFit.exact [] {} rfl n (.int n) (.inl rfl) p decoded
    exact decoded
  · intro n mem p decoded
    exact beyond32 n mem ((replicasFit.decodes [] {} rfl n (.int n) (.inl rfl)).mp ⟨p, decoded⟩)
  · intro n mem
    have read := (ranges n).2.2 (within64 n mem)
    obtain ⟨s, decoded⟩ := (observedFit.decodes [] {} rfl n (.int n) (.inr read)).mpr (within64 n mem)
    cases observedFit.exact [] {} rfl n (.int n) (.inr read) s decoded
    exact ⟨read, decoded⟩
  · obtain ⟨loaded, same⟩ := (loads (2 ^ 31 - 1) (2 ^ 53 + 1) (-2 ^ 31)).mpr (by decide)
    have same : read (write extreme) none = .ok loaded := by
      rw [extreme, (filled _ _ _).1]
      exact same
    have replicas := (anywhere _ none loaded same (2 ^ 31 - 1)).1
    have observed := (anywhere _ none loaded same (2 ^ 53 + 1)).2.2
    rw [ofText_extreme] at replicas observed
    obtain ⟨-, s, own, seen⟩ := observed (stands_ofJson _ rfl)
    exact ⟨loaded, s, same, (replicas (stands_ofJson _ rfl)).2, own, seen⟩
  · intro replicas first observed second
    obtain ⟨loaded, same⟩ := (loads replicas observed 0).mpr ⟨within32 _ first, within64 _ second, by decide⟩
    obtain ⟨rfl, deployed⟩ := deploys replicas observed 0 loaded same
    exact ⟨_, same, rfl, deployed {} Settings.isSized_default has⟩
  · intro replicas mem loaded same
    exact beyond32 replicas mem ((loads replicas 0 0).mp ⟨loaded, same⟩).1
  · intro observed mem loaded same
    exact beyond64 observed mem ((loads 0 observed 0).mp ⟨loaded, same⟩).2.1

end ControllerSynthesis.Manifest
