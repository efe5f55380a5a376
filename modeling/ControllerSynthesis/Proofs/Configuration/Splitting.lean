/-
# The flags as the virtual machine sees them

The flags are handed over as one text with a space between each two of them, and this
text is cut at its spaces again. A space inside a flag is cut there too, so there is one
piece more than there are flags for each such space. The flags come back exactly if no
text that they are made from has a space: none of the fixed flags, not the name of the
cluster, and not the name or the value of an option.

All that is said about the cut follows from one equation: a text with a space in it is
cut into the pieces in front of the space and the pieces behind it.

Key definitions: `Text.pieces`, `Unspaced`.
Key theorems: `Text.pieces_append_space`, `Text.length_pieces_intercalate`,
`Text.pieces_intercalate_eq_iff`, `unspaced_iff`, `configData_flags_split`.
-/
import ControllerSynthesis.Proofs.Configuration.JavaFlags

namespace ControllerSynthesis

/-! ### Texts cut at their spaces -/

namespace Text

variable {words : List String}

/-- The parts of a text between its spaces. Between two spaces in a row there is an empty
part, as there is in front of a space at the start and behind one at the end. -/
def pieces (text : String) : List String :=
  (text.split ' ').toList.map String.Slice.copy

/-- **A text is cut at each of its spaces.** -/
theorem pieces_append_space (front rest : String) : pieces (front ++ " " ++ rest) = pieces front ++ pieces rest := by
  simp only [pieces, String.toList_split_char, ← List.map_append]
  rw [← List.splitOn_append_cons_self]
  simp [String.toList_append]

/-- There is one piece more than there are spaces. -/
theorem length_pieces (text : String) : (pieces text).length = text.toList.count ' ' + 1 := by
  rw [pieces, String.toList_split_char, List.length_map]
  induction text.toList with
  | nil => rfl
  | cons c cs ih =>
    rw [List.splitOn_cons_eq_if_modifyHead, List.count_cons]
    split
    · rw [List.length_cons, ih]
    · rw [List.length_modifyHead, ih]

/-- Words joined by spaces are cut into the pieces of each word. -/
theorem pieces_intercalate (nonempty : words ≠ []) : pieces (" ".intercalate words) = words.flatMap pieces := by
  induction words with
  | nil => exact absurd rfl nonempty
  | cons word words ih =>
    cases words with
    | nil => simp
    | cons next words =>
      rw [String.intercalate_cons_cons, pieces_append_space, ih (List.cons_ne_nil next words)]
      rfl

/-- **Each space inside a word makes one piece more.** -/
theorem length_pieces_intercalate (nonempty : words ≠ []) :
    (pieces (" ".intercalate words)).length = words.length + (words.flatMap String.toList).count ' ' := by
  rw [pieces_intercalate nonempty]
  clear nonempty
  induction words with
  | nil => rfl
  | cons word words ih =>
    rw [List.flatMap_cons, List.length_append, length_pieces, ih, List.length_cons, List.flatMap_cons,
      List.count_append]
    omega

/-- A space inside a word makes more pieces than there are words. -/
theorem length_lt_pieces_intercalate {word : String} (mem : word ∈ words) (spaced : ' ' ∈ word.toList) :
    words.length < (pieces (" ".intercalate words)).length := by
  have counted : 0 < (words.flatMap String.toList).count ' ' :=
    List.count_pos_iff.mpr (List.mem_flatMap.mpr ⟨word, mem, spaced⟩)
  rw [length_pieces_intercalate (List.ne_nil_of_mem mem)]
  omega

/-- **Words come back exactly if none has a space.** -/
theorem pieces_intercalate_eq_iff (nonempty : words ≠ []) :
    pieces (" ".intercalate words) = words ↔ ∀ word ∈ words, ' ' ∉ word.toList := by
  constructor
  · intro same word mem spaced
    have more := length_lt_pieces_intercalate mem spaced
    rw [same] at more
    exact absurd more (Nat.lt_irrefl _)
  · intro unspaced
    have cut := String.toList_split_intercalate unspaced
    rw [if_neg nonempty] at cut
    exact cut

end Text

/-! ### The texts of the flags -/

variable {cluster : String} {spec : ClusterSpec} {settings : Settings}

/-- No text that the flags are made from has a space. The gated flags count only if the
gate is open. -/
structure Unspaced (cluster : String) (spec : ClusterSpec) (settings : Settings) : Prop where
  baseline : ∀ flag ∈ settings.jvm.baseline, ' ' ∉ flag.toList
  gated : Version.gate spec.version settings.jvm.gatedMinVersion .greaterOrEqual = true →
    ∀ flag ∈ settings.jvm.gated, ' ' ∉ flag.toList
  property : ' ' ∉ settings.jvm.clusterNameProperty.toList
  cluster : ' ' ∉ cluster.toList
  options : ∀ name value, spec.pravega.options.get? name = some value → ' ' ∉ name.toList ∧ ' ' ∉ value.toList

theorem mem_propertyFlag {name value : String} :
    ' ' ∈ (propertyFlag name value).toList ↔ ' ' ∈ name.toList ∨ ' ' ∈ value.toList := by
  simp [propertyFlag, String.toList_append]

theorem mem_gatedFlags {flag : String} : flag ∈ gatedFlags spec settings.jvm ↔
    Version.gate spec.version settings.jvm.gatedMinVersion .greaterOrEqual = true ∧ flag ∈ settings.jvm.gated := by
  unfold gatedFlags
  split <;> simp [*]

theorem mem_optionFlags {options : KeyMap String} {flag : String} :
    flag ∈ optionFlags options ↔ ∃ name value, options.get? name = some value ∧ propertyFlag name value = flag := by
  simp [optionFlags, KeyMap.mem_entries_iff]

/-- The flag of the cluster's name is always there. -/
theorem javaFlags_ne_nil : javaFlags cluster spec settings ≠ [] := by
  simp [javaFlags]

/-- A flag has a space exactly if one of its texts has. -/
theorem unspaced_iff : (∀ flag ∈ javaFlags cluster spec settings, ' ' ∉ flag.toList) ↔
    Unspaced cluster spec settings := by
  simp only [javaFlags, List.mem_append, List.mem_singleton, mem_gatedFlags, mem_optionFlags]
  constructor
  · intro none
    have named := mt mem_propertyFlag.mpr (none _ (.inl (.inl (.inr rfl))))
    refine ⟨fun flag mem => none flag (.inl (.inl (.inl mem))), fun opened flag mem => none flag (.inl (.inr ⟨opened, mem⟩)),
      fun spaced => named (.inl spaced), fun spaced => named (.inr spaced), ?_⟩
    intro name value own
    have flag := mt mem_propertyFlag.mpr (none _ (.inr ⟨name, value, own, rfl⟩))
    exact ⟨fun spaced => flag (.inl spaced), fun spaced => flag (.inr spaced)⟩
  · rintro unspaced flag (((mem | rfl) | ⟨opened, mem⟩) | ⟨name, value, own, rfl⟩)
    · exact unspaced.baseline flag mem
    · rw [mem_propertyFlag]
      exact not_or.mpr ⟨unspaced.property, unspaced.cluster⟩
    · exact unspaced.gated opened flag mem
    · rw [mem_propertyFlag]
      exact not_or.mpr (unspaced.options name value own)

/-- The flags are joined in the configuration. -/
theorem get?_flags (cluster : String) (spec : ClusterSpec) (settings : Settings) :
    (configData cluster spec settings).get? "JAVA_OPTS" = some (" ".intercalate (javaFlags cluster spec settings)) := by
  simp [configData, KeyMap.ofList]

/-- **The flags come back from the configuration exactly if no text in them has a space.**
Cut at its spaces, the entry of the flags gives the list of the flags if none of the fixed
flags that are given, nor the name of the property, the name of the cluster, or a name or
a value of an option has a space. Otherwise there are more pieces than flags: one for each
space. So a space in the value of an option always makes another argument. -/
theorem configData_flags_split (cluster : String) (spec : ClusterSpec) (settings : Settings) :
    ∃ text, (configData cluster spec settings).get? "JAVA_OPTS" = some text ∧
      (Text.pieces text = javaFlags cluster spec settings ↔ Unspaced cluster spec settings) ∧
      (¬ Unspaced cluster spec settings → (javaFlags cluster spec settings).length < (Text.pieces text).length) ∧
      (Text.pieces text).length =
        (javaFlags cluster spec settings).length + ((javaFlags cluster spec settings).flatMap String.toList).count ' ' ∧
      ∀ name value, spec.pravega.options.get? name = some value → ' ' ∈ value.toList →
        (javaFlags cluster spec settings).length < (Text.pieces text).length := by
  have more : ¬ Unspaced cluster spec settings → (javaFlags cluster spec settings).length <
      (Text.pieces (" ".intercalate (javaFlags cluster spec settings))).length := by
    intro spaced
    rw [← unspaced_iff] at spaced
    simp only [Classical.not_forall, not_not] at spaced
    obtain ⟨flag, mem, space⟩ := spaced
    exact Text.length_lt_pieces_intercalate mem space
  refine ⟨_, get?_flags cluster spec settings, ?_, more, Text.length_pieces_intercalate javaFlags_ne_nil, ?_⟩
  · rw [Text.pieces_intercalate_eq_iff javaFlags_ne_nil, unspaced_iff]
  · intro name value own spaced
    apply more
    intro unspaced
    exact (unspaced.options name value own).2 spaced

/-- A specification with an option whose value smuggles in a flag. -/
def smuggling : ClusterSpec where
  version := "0.3.9"
  zookeeperUri := "zk:2181"
  pravega := { options := KeyMap.empty.insert "k" "v -XX:+AlwaysPreTouch" }

theorem configData_flags_split_smuggling : ∃ text,
    (configData "demo" smuggling {}).get? "JAVA_OPTS" = some text ∧ 6 < (Text.pieces text).length := by
  obtain ⟨text, found, -, -, -, more⟩ := configData_flags_split "demo" smuggling {}
  have six : (javaFlags "demo" smuggling {}).length = 6 := by decide
  exact ⟨text, found, six ▸ more "k" "v -XX:+AlwaysPreTouch" (by decide) (by decide)⟩

end ControllerSynthesis
