/-
# The documents of a stream

The manifest of a controller's objects is their four documents with marks between
them. Each document is read back as its object, and no text in a cluster can put a
line into a document that is a mark or begins like one. So the stream is cut at its
marks into the four documents.

What ends a line matters for the line in front of a mark. A text that is written line
by line ends its last line itself if it ends with a line break, and this may be the
line separator or the paragraph separator. These end a line in YAML, but for a reader
that only knows line feeds the mark behind them is no line of its own. Such a reader
cuts the stream into the four documents exactly if the first three end with a line
feed.

Key definitions: `Yaml.EndsLines`.
Key theorems: `Manifest.cut_stream_iff`, `Manifest.render_documents`.
-/
import ControllerSynthesis.Manifest
import ControllerSynthesis.Proofs.Synthesis.Written
import ControllerSynthesis.Proofs.Yaml.Lines

namespace ControllerSynthesis

/-- What a reader takes for the ends of lines: the line feed, and none but the line
breaks of YAML. -/
structure Yaml.EndsLines (ends : Char → Bool) : Prop where
  feed : ends '\n' = true
  breaks : ∀ c, ends c = true → isBreak c = true

namespace Manifest

open Text (lines content cut hyphens markLine)
open Yaml (EndsLines Lined endsWith isBreak)

/-! ### Readers -/

theorem endsLines_isBreak : EndsLines isBreak := ⟨by decide, fun _ ending => ending⟩

theorem endsLines_feed : EndsLines (· == '\n') := by
  refine ⟨by decide, fun c ending => ?_⟩
  rw [beq_iff_eq.mp ending]
  decide

variable {ends : Char → Bool}

theorem EndsLines.hyphen (ok : EndsLines ends) : ends '-' = false :=
  Bool.eq_false_iff.mpr fun ending => absurd (ok.breaks '-' ending) (by decide)

/-- Whatever a reader takes for lines, none of them begins with three hyphens. -/
theorem unmarked_of_lined (ok : EndsLines ends) {d : List Char} (lined : Lined true d) :
    ∀ l ∈ lines ends d, Text.Unmarked l :=
  Text.unmarked_of_mem_lines (EndsLines.hyphen ok) (lined.1.coarser ok.breaks fun first => first)

theorem content_of_unmarked {l : List Char} (unmarked : Text.Unmarked l) :
    content ends l ≠ "---".toList ∧ ¬ "--- ".toList <+: content ends l := by
  have free : ¬ hyphens <+: content ends l := Text.not_prefix_of_unmarked unmarked
  constructor
  · intro same
    rw [same] at free
    exact free (List.prefix_refl _)
  · intro begins
    exact free ((List.prefix_append hyphens [' ']).trans begins)

theorem ne_nil_of_lined {d : List Char} (lined : Lined true d) : d ≠ [] := by
  rintro rfl
  exact absurd lined.2 (by decide)

/-- A text that ends a line in YAML ends it for a reader that knows its line breaks. -/
theorem endsWith_of_known {d : List Char} (closed : endsWith isBreak d = true)
    (known : ∀ ch ∈ d, isBreak ch = true → ends ch = true) : endsWith ends d = true := by
  obtain ⟨front, c, rfl, broken⟩ := Yaml.exists_append_of_endsWith closed
  rw [Yaml.endsWith_append_singleton]
  exact known c (by simp) broken

/-! ### Streams -/

/-- Four documents with marks between them. -/
def stream (d₀ d₁ d₂ d₃ : List Char) : List Char :=
  d₀ ++ (markLine '\n' ++ (d₁ ++ (markLine '\n' ++ (d₂ ++ (markLine '\n' ++ d₃)))))

section Cutting

variable {d₀ d₁ d₂ d₃ : List Char} (lined₀ : Lined true d₀) (lined₁ : Lined true d₁) (lined₂ : Lined true d₂)
  (lined₃ : Lined true d₃)

include lined₀ lined₁ lined₂ lined₃

/-- **A reader finds one document more than end their last line**, of those with a mark
behind them. -/
theorem length_cut_stream (ok : EndsLines ends) :
    (cut ends (stream d₀ d₁ d₂ d₃)).length =
      1 + (endsWith ends d₂).toNat + (endsWith ends d₁).toNat + (endsWith ends d₀).toNat := by
  have counts {d : List Char} (lined : Lined true d) (more : List Char) :=
    Text.length_cut_append (EndsLines.hyphen ok) ok.feed (unmarked_of_lined ok lined) (ne_nil_of_lined lined) more
  have last : cut ends d₃ = [d₃] :=
    Text.cut_of_unmarked fun l mem => Text.isMark_of_unmarked (unmarked_of_lined ok lined₃ l mem)
  rw [stream, counts lined₀, counts lined₁, counts lined₂, last]
  rfl

/-- **A reader cuts a stream into its documents** exactly if all but the last end with
what ends lines for the reader. -/
theorem cut_stream_iff (ok : EndsLines ends) :
    cut ends (stream d₀ d₁ d₂ d₃) = [d₀, d₁, d₂, d₃] ↔
      endsWith ends d₀ = true ∧ endsWith ends d₁ = true ∧ endsWith ends d₂ = true := by
  have hyphen := EndsLines.hyphen ok
  have none {d : List Char} (lined : Lined true d) : ∀ l ∈ lines ends d, Text.isMark ends l = false :=
    fun l mem => Text.isMark_of_unmarked (unmarked_of_lined ok lined l mem)
  constructor
  · intro same
    have count := length_cut_stream lined₀ lined₁ lined₂ lined₃ ok
    have all : ∀ b₀ b₁ b₂ : Bool, 4 = 1 + b₂.toNat + b₁.toNat + b₀.toNat →
        b₀ = true ∧ b₁ = true ∧ b₂ = true := by decide
    rw [same] at count
    exact all _ _ _ count
  · rintro ⟨closed₀, closed₁, closed₂⟩
    rw [stream, Text.cut_append hyphen ok.feed (none lined₀) closed₀,
      Text.cut_append hyphen ok.feed (none lined₁) closed₁, Text.cut_append hyphen ok.feed (none lined₂) closed₂,
      Text.cut_of_unmarked (none lined₃)]

/-- So a reader that knows the line breaks of a stream cuts it into its documents. -/
theorem cut_stream_of_known (ok : EndsLines ends)
    (known : ∀ ch ∈ stream d₀ d₁ d₂ d₃, isBreak ch = true → ends ch = true) :
    cut ends (stream d₀ d₁ d₂ d₃) = [d₀, d₁, d₂, d₃] := by
  have closed₀ := endsWith_of_known lined₀.2 fun ch mem => known ch (by simp [stream, mem])
  have closed₁ := endsWith_of_known lined₁.2 fun ch mem => known ch (by simp [stream, mem])
  have closed₂ := endsWith_of_known lined₂.2 fun ch mem => known ch (by simp [stream, mem])
  exact (cut_stream_iff lined₀ lined₁ lined₂ lined₃ ok).mpr ⟨closed₀, closed₁, closed₂⟩

end Cutting

/-! ### Manifests -/

theorem render_eq (r : ControllerObjects) : render r =
    Yaml.write r.configMap.toJson ++ "---\n" ++ Yaml.write r.service.toJson ++ "---\n" ++
      Yaml.write r.deployment.toJson ++ "---\n" ++ Yaml.write r.disruptionBudget.toJson := rfl

theorem toList_render (r : ControllerObjects) : (render r).toList =
    stream (Yaml.writeChars r.configMap.toJson) (Yaml.writeChars r.service.toJson)
      (Yaml.writeChars r.deployment.toJson) (Yaml.writeChars r.disruptionBudget.toJson) := by
  have mark : "---\n".toList = markLine '\n' := rfl
  simp [render_eq, Yaml.write, mark, stream]

/-- A document that is read back as the value it was written for, and has no line that
begins like a mark. -/
structure IsDocument (value : Json) : Prop where
  reads : Record.Shape.any.ofYaml (Yaml.write value) = .ok value.ordered
  lined : Lined true (Yaml.writeChars value)

theorem isDocument_objectJson {apiVersion kind : String} {fields : List (String × Json)}
    (readable : (objectJson apiVersion kind fields).Readable (Record.deepest - 1)) :
    IsDocument (objectJson apiVersion kind fields) := by
  have integral := readable.1
  rw [objectJson, Json.isIntegral] at integral
  exact ⟨Record.ofYaml_any integral (List.cons_ne_nil _ _) readable.2,
    Yaml.lined_writeChars (Json.membersExact_of_membersIntegral integral) (List.cons_ne_nil _ _)⟩

/-- **Every object that synthesis makes has a document.** -/
theorem isDocument_of_synthesize {c : Cluster} {settings : Settings} {r : ControllerObjects}
    (sized : settings.IsSized) (replicas : Record.Width.i32.holds c.spec.pravega.controllerReplicas = true)
    (made : synthesize c settings = .ok r) :
    IsDocument r.configMap.toJson ∧ IsDocument r.service.toJson ∧ IsDocument r.deployment.toJson ∧
      IsDocument r.disruptionBudget.toJson := by
  have readable := readable_of_synthesize sized replicas made
  refine ⟨isDocument_objectJson (readable r.configMap.toJson ?_), isDocument_objectJson (readable r.service.toJson ?_),
    isDocument_objectJson (readable r.deployment.toJson ?_),
    isDocument_objectJson (readable r.disruptionBudget.toJson ?_)⟩ <;>
    simp [ControllerObjects.values]

/-- **A stream carries exactly its four documents**, whatever text the cluster and the
settings contain. Each is read back, as a value of any kind, as the object it was
written for. None has a line that is a mark or begins like one, for any reader that
takes the line feed and nothing but line breaks of YAML for the ends of lines. A reader
of YAML cuts the stream at its marks into these documents in this order. Any other such
reader does so if the stream has no line break that it does not know, and exactly if the
first three documents end with what ends lines for it. -/
theorem render_documents (c : Cluster) (settings : Settings) (r : ControllerObjects)
    (sized : settings.IsSized) (replicas : Record.Width.i32.holds c.spec.pravega.controllerReplicas = true)
    (made : synthesize c settings = .ok r) :
    ∃ d₀ d₁ d₂ d₃ : String,
      render r = d₀ ++ "---\n" ++ d₁ ++ "---\n" ++ d₂ ++ "---\n" ++ d₃ ∧
      (Record.Shape.any.ofYaml d₀ = .ok r.configMap.toJson.ordered ∧
        Record.Shape.any.ofYaml d₁ = .ok r.service.toJson.ordered ∧
        Record.Shape.any.ofYaml d₂ = .ok r.deployment.toJson.ordered ∧
        Record.Shape.any.ofYaml d₃ = .ok r.disruptionBudget.toJson.ordered) ∧
      (∀ ends : Char → Bool, EndsLines ends → ∀ d ∈ [d₀, d₁, d₂, d₃], ∀ l ∈ lines ends d.toList,
        content ends l ≠ "---".toList ∧ ¬ "--- ".toList <+: content ends l) ∧
      cut isBreak (render r).toList = [d₀, d₁, d₂, d₃].map String.toList ∧
      ∀ ends : Char → Bool, EndsLines ends →
        ((∀ ch ∈ (render r).toList, isBreak ch = true → ends ch = true) →
          cut ends (render r).toList = [d₀, d₁, d₂, d₃].map String.toList) ∧
        (cut ends (render r).toList = [d₀, d₁, d₂, d₃].map String.toList ↔
          ∀ d ∈ [d₀, d₁, d₂], endsWith ends d.toList = true) := by
  obtain ⟨first, second, third, fourth⟩ := isDocument_of_synthesize sized replicas made
  have marks := toList_render r
  refine ⟨Yaml.write r.configMap.toJson, Yaml.write r.service.toJson, Yaml.write r.deployment.toJson,
    Yaml.write r.disruptionBudget.toJson, render_eq r, ⟨first.reads, second.reads, third.reads, fourth.reads⟩, ?_, ?_, ?_⟩
  · intro ends ok d mem l line
    have unmarked : Text.Unmarked l := by
      simp only [List.mem_cons, List.not_mem_nil, or_false] at mem
      rcases mem with rfl | rfl | rfl | rfl <;> rw [Yaml.write, String.toList_ofList] at line
      · exact unmarked_of_lined ok first.lined l line
      · exact unmarked_of_lined ok second.lined l line
      · exact unmarked_of_lined ok third.lined l line
      · exact unmarked_of_lined ok fourth.lined l line
    exact content_of_unmarked unmarked
  · rw [marks, cut_stream_of_known first.lined second.lined third.lined fourth.lined endsLines_isBreak
      fun _ _ broken => broken]
    simp only [Yaml.write, List.map_cons, List.map_nil, String.toList_ofList]
  · intro ends ok
    have known := cut_stream_of_known first.lined second.lined third.lined fourth.lined ok
    have exactly := cut_stream_iff first.lined second.lined third.lined fourth.lined ok
    rw [marks]
    constructor
    · simpa [Yaml.write] using known
    · simpa [Yaml.write] using exactly

/-- A cluster whose texts look like marks and like the start of a document. -/
def marked : Cluster where
  metadata := { name := some "---", namespaceName := some "a\n---\nkind: Secret\n" }
  spec := {
    version := "--- 1"
    zookeeperUri := "\n---\n"
    pravega := { controllerResources := some {}, options := KeyMap.ofList [("---\n", "...\n--- b")] } }

theorem render_documents_marked : ∃ (r : ControllerObjects) (d₀ d₁ d₂ d₃ : String),
    synthesize marked {} = .ok r ∧
      (Record.Shape.any.ofYaml d₀ = .ok r.configMap.toJson.ordered ∧
        Record.Shape.any.ofYaml d₁ = .ok r.service.toJson.ordered ∧
        Record.Shape.any.ofYaml d₂ = .ok r.deployment.toJson.ordered ∧
        Record.Shape.any.ofYaml d₃ = .ok r.disruptionBudget.toJson.ordered) ∧
      cut isBreak (render r).toList = [d₀, d₁, d₂, d₃].map String.toList := by
  obtain ⟨r, made⟩ : ∃ r, synthesize marked {} = .ok r := ⟨_, rfl⟩
  obtain ⟨d₀, d₁, d₂, d₃, -, reads, -, parts, -⟩ := render_documents marked {} r Settings.isSized_default (by decide) made
  exact ⟨r, d₀, d₁, d₂, d₃, made, reads, parts⟩

/-- The document of a configuration map ends with its namespace. -/
theorem endsWith_configMap (q : Char → Bool) (data : KeyMap String) (cluster ns role : String) :
    endsWith q (Yaml.writeChars (ConfigMap.toJson ⟨data, Naming.metadata cluster ns role⟩)) =
      endsWith q (Yaml.writeEntry 2 "namespace" (.str ns)) := by
  have metadata : (Naming.metadata cluster ns role).toJson =
      .obj ([("labels", Json.ofKeyMap (Naming.labels cluster role)),
        ("name", .str (Naming.resourceName cluster role))] ++ [("namespace", .str ns)]) := by
    simp [Metadata.toJson, Naming.metadata, Json.optional]
  have whole : Yaml.writeChars (ConfigMap.toJson ⟨data, Naming.metadata cluster ns role⟩) =
      Yaml.writeEntries 0 ([("apiVersion", .str "v1"), ("kind", .str "ConfigMap"), ("data", Json.ofKeyMap data)] ++
        [("metadata", (Naming.metadata cluster ns role).toJson)]) := rfl
  rw [whole, Yaml.endsWith_writeEntries, metadata, Yaml.endsWith_writeEntry_obj (by decide)]

/-- A cluster whose namespace ends with a line separator. -/
def separated : Cluster where
  metadata := { name := some "demo", namespaceName := some "a\nb\u2028" }
  spec := { version := "0.5.0", zookeeperUri := "zk:2181", pravega := { controllerResources := some {} } }

/-- The first mark stands behind a line separator, where a reader of line feeds does
not see it. -/
theorem render_separated : ∃ r, synthesize separated {} = .ok r ∧
    ∀ d₀ d₁ d₂ d₃ : String, cut (· == '\n') (render r).toList ≠ [d₀, d₁, d₂, d₃].map String.toList := by
  obtain ⟨r, made⟩ : ∃ r, synthesize separated {} = .ok r := ⟨_, rfl⟩
  obtain ⟨first, second, third, fourth⟩ := isDocument_of_synthesize Settings.isSized_default (by decide) made
  have goesOn : endsWith (· == '\n') (Yaml.writeChars r.configMap.toJson) = false := by
    obtain ⟨data, same⟩ : ∃ data, r.configMap = ⟨data, Naming.metadata "demo" "a\nb\u2028" Naming.controllerRole⟩ := by
      cases made
      exact ⟨_, rfl⟩
    rw [same, endsWith_configMap]
    decide
  have count := length_cut_stream first.lined second.lined third.lined fourth.lined endsLines_feed
  have least := Bool.toNat_le (endsWith (· == '\n') (Yaml.writeChars r.service.toJson))
  have less := Bool.toNat_le (endsWith (· == '\n') (Yaml.writeChars r.deployment.toJson))
  rw [goesOn, Bool.toNat_false, ← toList_render] at count
  refine ⟨r, made, fun d₀ d₁ d₂ d₃ same => ?_⟩
  rw [same, List.length_map] at count
  simp only [List.length_cons, List.length_nil] at count
  omega

end Manifest

end ControllerSynthesis
