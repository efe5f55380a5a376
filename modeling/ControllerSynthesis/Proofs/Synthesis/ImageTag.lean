/-
# The tag of an image without one

An image that names no tag is tagged with the version of the cluster, in the words of the
manifest. The gate reads the same words more freely: it trims the white space around them
and lets build metadata stand, and neither can be in a tag. All other characters of a
version can, and the first one is a digit or the letter `v`. So a version that the gate
accepts is a tag exactly if there is nothing to trim and no build metadata.

Key definitions: `Image.IsTag`, `Image.tagOf`, `Cluster.imageReference`.
Key theorems: `Image.isTag_version_iff`, `Image.tagOf_reference_eq`, `image_of_synthesize`.
-/
import Mathlib.Data.List.DropRight
import ControllerSynthesis.Proofs.Synthesis.Pod
import ControllerSynthesis.Proofs.Version.Spelling

namespace ControllerSynthesis

namespace Image

open Version (Spells)

/-! ### Tags -/

/-- Whether a tag may begin with the character. -/
def isWordChar (c : Char) : Bool :=
  Digits.isDecimal c || ('a' ≤ c && c ≤ 'z') || ('A' ≤ c && c ≤ 'Z') || c == '_'

/-- Whether the character may stand in a tag. -/
def isTagChar (c : Char) : Bool :=
  isWordChar c || c == '.' || c == '-'

/-- Whether a text is a tag: `[A-Za-z0-9_][A-Za-z0-9._-]*`. -/
def IsTag : List Char → Prop
  | [] => False
  | c :: rest => isWordChar c = true ∧ ∀ d ∈ rest, isTagChar d = true

instance : DecidablePred IsTag
  | [] => inferInstanceAs (Decidable False)
  | _ :: _ => inferInstanceAs (Decidable (_ ∧ _))

/-- The part of a reference that stands behind its last colon. -/
def tagOf (reference : String) : List Char :=
  reference.toList.rtakeWhile (· != ':')

theorem isTagChar_of_isWordChar {c : Char} (word : isWordChar c = true) : isTagChar c = true := by
  rw [isTagChar, word]
  rfl

theorem isWordChar_of_isDecimal {c : Char} (digit : Digits.isDecimal c = true) : isWordChar c = true := by
  rw [isWordChar, digit]
  rfl

theorem isTagChar_of_mem {tag : List Char} (isTag : IsTag tag) : ∀ c ∈ tag, isTagChar c = true := by
  cases tag with
  | nil => exact nofun
  | cons first rest =>
    intro c mem
    rcases List.mem_cons.mp mem with rfl | mem
    · exact isTagChar_of_isWordChar isTag.1
    · exact isTag.2 c mem

theorem isTagChar_of_isSegmentChar {c : Char} (inside : Version.isSegmentChar c = true) : isTagChar c = true := by
  simp only [Version.isSegmentChar, Bool.or_eq_true] at inside
  simp only [isTagChar, isWordChar, Bool.or_eq_true]
  rcases inside with ((digit | lower) | upper) | hyphen
  · exact .inl (.inl (.inl (.inl (.inl digit))))
  · exact .inl (.inl (.inl (.inl (.inr lower))))
  · exact .inl (.inl (.inl (.inr upper)))
  · exact .inr hyphen

/-- Nothing in a tag is white space. -/
theorem isBlank_of_isTagChar {c : Char} (inside : isTagChar c = true) : Text.isBlank c = false := by
  by_cases segment : Version.isSegmentChar c = true
  · exact Version.isBlank_of_isSegmentChar segment
  · have other : c = '_' ∨ c = '.' := by
      simp only [isTagChar, isWordChar, Bool.or_eq_true, beq_iff_eq] at inside
      simp only [Version.isSegmentChar, Bool.or_eq_true, beq_iff_eq] at segment
      tauto
    rcases other with rfl | rfl
    · rfl
    · rfl

/-! ### Versions as tags -/

variable {raw : String} {v : Version}

/-- What stands in a spelling can stand in a tag, but for the mark of build metadata. -/
theorem isTagChar_of_spells {short : List Char} (spelled : Spells short v) {c : Char} (mem : c ∈ short) :
    isTagChar c = true ∨ c = '+' ∧ v.build ≠ [] := by
  obtain ⟨wellFormed, front, numbers, rfl⟩ := spelled
  simp only [List.mem_append] at mem
  rcases mem with mem | mem | mem
  · rcases Version.mem_isCore numbers mem with rfl | digit
    · exact .inl rfl
    · exact .inl (isTagChar_of_isWordChar (isWordChar_of_isDecimal digit))
  · rcases Version.mem_suffix (fun w own => (wellFormed.pre w own).1) mem with rfl | rfl | inside
    · exact .inl rfl
    · exact .inl rfl
    · exact .inl (isTagChar_of_isSegmentChar inside)
  · rcases Version.mem_suffix (fun w own => (wellFormed.build w own).1) mem with rfl | rfl | inside
    · refine .inr ⟨rfl, ?_⟩
      intro none
      rw [none] at mem
      cases mem
    · exact .inl rfl
    · exact .inl (isTagChar_of_isSegmentChar inside)

/-- Build metadata has its mark in every spelling. -/
theorem plus_mem_of_spells {short : List Char} (spelled : Spells short v) (there : v.build ≠ []) : '+' ∈ short := by
  obtain ⟨-, front, -, rfl⟩ := spelled
  obtain ⟨first, words, same⟩ := List.exists_cons_of_ne_nil there
  rw [same]
  simp [Version.suffix]

/-- **A version is a tag** exactly if nothing of it is trimmed and it has no build metadata. -/
theorem isTag_version_iff (accepted : Version.ofText raw = .ok v) :
    IsTag raw.toList ↔ Text.trim raw.toList = raw.toList ∧ v.build = [] := by
  obtain ⟨wellFormed, lead, mark, short, tail, split, blankLead, blankTail, marked, mem⟩ :=
    Version.ofText_iff_respells.mp accepted
  have spelled : Spells short v := Version.spells_iff.mpr ⟨wellFormed, mem⟩
  have trimmed : Text.trim raw.toList = mark ++ short := by
    rw [split]
    exact Text.isTrimmed_iff.mp (Version.isTrimmed_of_spells spelled blankLead blankTail marked)
  constructor
  · intro isTag
    have inside := isTagChar_of_mem isTag
    constructor
    · have visible : ∀ c ∈ raw.toList, Text.isBlank c = false := fun c mem => isBlank_of_isTagChar (inside c mem)
      have whole : Text.IsTrimmed raw.toList raw.toList :=
        ⟨[], [], by simp, nofun, nofun, fun c first => visible c (List.mem_of_mem_head? first),
          fun c last => visible c (List.mem_of_getLast? last)⟩
      exact Text.isTrimmed_iff.mp whole
    · by_contra there
      have plus : '+' ∈ raw.toList := by
        rw [split]
        simp [plus_mem_of_spells spelled there]
      have refused : isTagChar '+' = false := by decide
      rw [inside '+' plus] at refused
      cases refused
  · rintro ⟨untrimmed, plain⟩
    have inside : ∀ c ∈ short, isTagChar c = true := by
      intro c mem
      rcases isTagChar_of_spells spelled mem with tag | ⟨-, there⟩
      · exact tag
      · exact absurd plain there
    rw [← untrimmed, trimmed]
    rcases marked with rfl | rfl
    · obtain ⟨c, rest, rfl, digit⟩ := Version.head?_of_spells spelled
      exact ⟨isWordChar_of_isDecimal digit, fun d mem => inside d (List.mem_cons_of_mem c mem)⟩
    · exact ⟨rfl, inside⟩

/-- No version has a colon in it. -/
theorem colon_not_mem_version (accepted : Version.ofText raw = .ok v) : ':' ∉ raw.toList := by
  intro mem
  obtain ⟨wellFormed, lead, mark, short, tail, split, blankLead, blankTail, marked, short_mem⟩ :=
    Version.ofText_iff_respells.mp accepted
  rw [split] at mem
  simp only [List.mem_append] at mem
  rcases mem with (mem | mem | mem) | mem
  · have blank := blankLead ':' mem
    cases blank
  · rcases marked with rfl | rfl
    · cases mem
    · cases List.mem_singleton.mp mem
  · rcases isTagChar_of_spells (Version.spells_iff.mpr ⟨wellFormed, short_mem⟩) mem with tag | ⟨plus, -⟩
    · cases tag
    · cases plus
  · have blank := blankTail ':' mem
    cases blank

/-- What stands behind the last colon is the tag, whatever the repository. -/
theorem tagOf_append (repository : String) {tag : String} (plain : ':' ∉ tag.toList) :
    tagOf (repository ++ ":" ++ tag) = tag.toList := by
  have text : (repository ++ ":" ++ tag).toList = repository.toList ++ ':' :: tag.toList := by
    rw [String.toList_append, String.toList_append, List.append_assoc]
    rfl
  have inside : ∀ c ∈ tag.toList.reverse, (c != ':') = true := by
    intro c mem
    rw [bne_iff_ne]
    rintro rfl
    exact plain (List.mem_reverse.mp mem)
  rw [tagOf, text, List.rtakeWhile, List.reverse_append, List.reverse_cons, List.append_assoc,
    List.singleton_append, Text.takeWhile_stops inside (Text.stops_cons.mpr rfl), List.reverse_reverse]

/-- **The tag of an image without one** is the version of the cluster, in the words of the
manifest. -/
theorem tagOf_reference_eq (accepted : Version.ofText raw = .ok v) {image : ImageSpec}
    (untagged : nonEmpty? image.tag = none) : tagOf (image.reference raw) = raw.toList := by
  rw [ImageSpec.reference, ImageSpec.tagOr, untagged, Option.getD_none]
  exact tagOf_append _ (colon_not_mem_version accepted)

end Image

/-! ### The image of the deployment -/

/-- The reference of the image that a cluster asks for. -/
def Cluster.imageReference (c : Cluster) : String :=
  (c.spec.pravega.image.getD {}).reference c.spec.version

variable {c : Cluster} {settings : Settings}

/-- The pod of the controller runs this image, with and without TLS. -/
theorem image_of_podSpec {pod : PodSpec} (made : podSpec c settings = .ok pod) :
    ∃ k : Container, pod.containers = [k] ∧ k.image = some c.imageReference := by
  obtain ⟨name, k, -, containerMade, podMade⟩ := podSpec_eq_ok.mp made
  have image : k.image = some c.imageReference := by
    unfold controllerContainer at containerMade
    split at containerMade
    · cases containerMade
    · cases containerMade
      rfl
  rcases PodSpec.withTls_cases podMade with ⟨-, rfl⟩ | ⟨tls, secret, -, -, rfl⟩
  · exact ⟨k, rfl, image⟩
  · exact ⟨_, rfl, image⟩

theorem image_of_synthesize {r : ControllerObjects} (made : synthesize c settings = .ok r) :
    ∃ k : Container, r.deployment.template.spec.containers = [k] ∧ k.image = some c.imageReference := by
  obtain ⟨name, ns, pod, -, -, podMade, rfl⟩ := synthesize_eq_ok.mp made
  exact image_of_podSpec podMade

/-- **The image of a cluster that names no tag** is tagged with the version of the cluster,
in the words of the manifest. If the gate accepts the version, the tag is valid exactly if
the version has no white space around it and no build metadata; and the deployment runs
this image. -/
theorem imageTag_of_accepted {v : Version}
    (untagged : ∀ image, c.spec.pravega.image = some image → image.tag = none ∨ image.tag = some "")
    (accepted : Version.ofText c.spec.version = .ok v) (settings : Settings) :
    Image.tagOf c.imageReference = c.spec.version.toList ∧
      (Image.IsTag (Image.tagOf c.imageReference) ↔
        Text.trim c.spec.version.toList = c.spec.version.toList ∧ v.build = []) ∧
      ∀ r, synthesize c settings = .ok r →
        ∃ k : Container, r.deployment.template.spec.containers = [k] ∧ k.image = some c.imageReference := by
  have unnamed : nonEmpty? (c.spec.pravega.image.getD {}).tag = none := by
    cases same : c.spec.pravega.image with
    | none => rfl
    | some image =>
      rw [Option.getD_some]
      rcases untagged image same with none | empty
      · rw [none]
        rfl
      · rw [empty]
        rfl
  have tag : Image.tagOf c.imageReference = c.spec.version.toList := Image.tagOf_reference_eq accepted unnamed
  refine ⟨tag, ?_, fun r made => image_of_synthesize made⟩
  rw [tag]
  exact Image.isTag_version_iff accepted

/-- A cluster that is complete but for the version, with an image from a registry with a
port and with an empty tag. -/
def untagged (version : String) : Cluster where
  metadata := { name := some "demo", namespaceName := some "streaming" }
  spec := {
    version := version
    zookeeperUri := "zk:2181"
    pravega := {
      controllerResources := some {}
      image := some { repository := some "registry:5000/pravega", tag := some "" } } }

/-- Of its version nothing but the leading `v` is left out by the gate, and that can be in
a tag. -/
theorem imageTag_of_accepted_marked :
    Version.ofText (untagged "v0.5-rc.1").spec.version = .ok ⟨0, 5, 0, [['r', 'c'], ['1']], []⟩ ∧
      Image.IsTag (Image.tagOf (untagged "v0.5-rc.1").imageReference) ∧
      ∃ r, synthesize (untagged "v0.5-rc.1") {} = .ok r ∧
        ∃ k : Container, r.deployment.template.spec.containers = [k] ∧
          k.image = some "registry:5000/pravega:v0.5-rc.1" := by
  have accepted : Version.ofText (untagged "v0.5-rc.1").spec.version = .ok ⟨0, 5, 0, [['r', 'c'], ['1']], []⟩ := by
    decide
  have blank (image : ImageSpec) (same : (untagged "v0.5-rc.1").spec.pravega.image = some image) :
      image.tag = none ∨ image.tag = some "" := by
    cases same
    exact .inr rfl
  obtain ⟨-, valid, runs⟩ := imageTag_of_accepted blank accepted {}
  refine ⟨accepted, valid.mpr ⟨by decide, rfl⟩, _, rfl, runs _ rfl⟩

/-- White space around a version and build metadata are accepted, and stand in the tag. -/
theorem imageTag_unusable :
    ¬ (∀ (c : Cluster) (v : Version),
        (∀ image, c.spec.pravega.image = some image → image.tag = none ∨ image.tag = some "") →
        Version.ofText c.spec.version = .ok v → Image.IsTag (Image.tagOf c.imageReference)) ∧
      Version.ofText " 0.5.0" = .ok ⟨0, 5, 0, [], []⟩ ∧
      ¬ Image.IsTag (Image.tagOf (untagged " 0.5.0").imageReference) ∧
      Version.ofText "0.5.0+7" = .ok ⟨0, 5, 0, [], [['7']]⟩ ∧
      ¬ Image.IsTag (Image.tagOf (untagged "0.5.0+7").imageReference) := by
  have spaced : Version.ofText " 0.5.0" = .ok ⟨0, 5, 0, [], []⟩ := by decide
  have built : Version.ofText "0.5.0+7" = .ok ⟨0, 5, 0, [], [['7']]⟩ := by decide
  have invalid : ¬ Image.IsTag (Image.tagOf (untagged " 0.5.0").imageReference) := by
    have tag : Image.tagOf (untagged " 0.5.0").imageReference = " 0.5.0".toList :=
      Image.tagOf_reference_eq spaced rfl
    have trimmed : Text.trim " 0.5.0".toList ≠ " 0.5.0".toList := by decide
    rw [tag, Image.isTag_version_iff spaced]
    exact fun usable => trimmed usable.1
  have invalid' : ¬ Image.IsTag (Image.tagOf (untagged "0.5.0+7").imageReference) := by
    have tag : Image.tagOf (untagged "0.5.0+7").imageReference = "0.5.0+7".toList :=
      Image.tagOf_reference_eq built rfl
    rw [tag, Image.isTag_version_iff built]
    exact fun usable => nomatch usable.2
  have blank (image : ImageSpec) (same : (untagged " 0.5.0").spec.pravega.image = some image) :
      image.tag = none ∨ image.tag = some "" := by
    cases same
    exact .inr rfl
  refine ⟨?_, spaced, invalid, built, invalid'⟩
  intro always
  exact invalid (always (untagged " 0.5.0") ⟨0, 5, 0, [], []⟩ blank spaced)

end ControllerSynthesis
