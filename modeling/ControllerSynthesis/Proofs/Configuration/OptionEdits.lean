/-
# Runs of edits of the options

After any run of edits an option has the value that the last edit that concerns it gave
it, or the one it had at first if no edit concerns it; an edit concerns an option if it
sets or removes it, and clearing concerns all. Its flag is there exactly then, and the
flags are in ascending order of the options, whatever the order of the edits was. The
order is that of the code points, which is that of the bytes. So a run leaves no other
trace than the options it ends with, and nothing but the flags depends on it.

Key definitions: `OptionEdit.Concerns`, `OptionEdit.Leaves`, `OptionEdit.applyAll`,
`ControllerObjects.withFlags`, `Cluster.editAllOptions`.
Key theorems: `OptionEdit.get?_applyAll_iff`, `OptionEdit.apply_comm`,
`synthesize_withOptions`, `editAllOptions_flags`.
-/
import ControllerSynthesis.Proofs.KeyMap
import ControllerSynthesis.Proofs.Synthesis.Objects
import ControllerSynthesis.Proofs.Text.ByteOrder
import ControllerSynthesis.Session

namespace ControllerSynthesis

namespace OptionEdit

variable {options : KeyMap String} {key value : String}

/-! ### Edits and the options they concern -/

/-- The option that an edit sets or removes; clearing is about no single one. -/
def key? : OptionEdit → Option String
  | insert key _ => some key
  | remove key => some key
  | clear => none

/-- The edit decides about the option: it sets it, removes it or clears all. -/
def Concerns (key : String) : OptionEdit → Prop
  | insert other _ => other = key
  | remove other => other = key
  | clear => True

/-- Behind an edit that concerns it, an option is there only if the edit set it. -/
theorem get?_apply_of_concerns {edit : OptionEdit} (concerns : edit.Concerns key) :
    (edit.apply options).get? key = some value ↔ edit = .insert key value := by
  cases edit with
  | insert other v =>
    obtain rfl : other = key := concerns
    simp [apply]
  | remove other =>
    obtain rfl : other = key := concerns
    simp [apply]
  | clear => simp [apply]

/-- Other edits leave the option as it is. -/
theorem get?_apply_of_not_concerns {edit : OptionEdit} (other : ¬ edit.Concerns key) :
    (edit.apply options).get? key = options.get? key := by
  cases edit with
  | insert k v =>
    have different : k ≠ key := other
    simp [apply, different]
  | remove k =>
    have different : k ≠ key := other
    simp [apply, different]
  | clear => exact absurd trivial other

/-- What an edit makes of an option depends on nothing but the option. -/
theorem get?_apply_congr (edit : OptionEdit) {options others : KeyMap String}
    (same : options.get? key = others.get? key) : (edit.apply options).get? key = (edit.apply others).get? key := by
  cases edit <;> simp [apply, same]

theorem concerns_iff {edit : OptionEdit} {k : String} (own : edit.key? = some k) : edit.Concerns key ↔ k = key := by
  cases edit <;> cases own <;> rfl

/-- Where one of two edits does not concern an option, their order does not count for it. -/
theorem get?_apply_comm {e : OptionEdit} (other : ¬ e.Concerns key) (f : OptionEdit) (options : KeyMap String) :
    (f.apply (e.apply options)).get? key = (e.apply (f.apply options)).get? key :=
  calc (f.apply (e.apply options)).get? key
    _ = (f.apply options).get? key := get?_apply_congr f (get?_apply_of_not_concerns other)
    _ = (e.apply (f.apply options)).get? key := (get?_apply_of_not_concerns other).symm

/-- **Edits of different options can change places.** -/
theorem apply_comm {e f : OptionEdit} {k j : String} (ofE : e.key? = some k) (ofF : f.key? = some j)
    (different : k ≠ j) (options : KeyMap String) : f.apply (e.apply options) = e.apply (f.apply options) := by
  refine KeyMap.ext_get? fun key => ?_
  by_cases concerns : e.Concerns key
  · have first : k = key := (concerns_iff ofE).mp concerns
    have other : ¬ f.Concerns key := fun both => different (first.trans ((concerns_iff ofF).mp both).symm)
    exact (get?_apply_comm other e options).symm
  · exact get?_apply_comm concerns f options

/-! ### Runs -/

/-- The options after edits, from the first to the last. -/
def applyAll (options : KeyMap String) (edits : List OptionEdit) : KeyMap String :=
  edits.foldl apply options

/-- A run leaves the option with this value: the last edit that concerns it sets it to
the value, or it had the value at first and no edit concerns it. -/
def Leaves (options : KeyMap String) (edits : List OptionEdit) (key value : String) : Prop :=
  (∃ before after, edits = before ++ .insert key value :: after ∧ ∀ e ∈ after, ¬ e.Concerns key) ∨
    options.get? key = some value ∧ ∀ e ∈ edits, ¬ e.Concerns key

/-- A run leaves what the rest of it leaves behind its first edit. -/
theorem leaves_cons {edit : OptionEdit} {edits : List OptionEdit} :
    Leaves options (edit :: edits) key value ↔ Leaves (edit.apply options) edits key value := by
  constructor
  · rintro (⟨before, after, same, silent⟩ | ⟨found, silent⟩)
    · cases before with
      | nil =>
        obtain ⟨rfl, rfl⟩ := List.cons.inj same
        have concerns : Concerns key (.insert key value) := rfl
        exact .inr ⟨(get?_apply_of_concerns concerns).mpr rfl, silent⟩
      | cons first before =>
        obtain ⟨rfl, rfl⟩ := List.cons.inj same
        exact .inl ⟨before, after, rfl, silent⟩
    · obtain ⟨other, silent⟩ := List.forall_mem_cons.mp silent
      exact .inr ⟨(get?_apply_of_not_concerns other).trans found, silent⟩
  · rintro (⟨before, after, rfl, silent⟩ | ⟨found, silent⟩)
    · exact .inl ⟨edit :: before, after, rfl, silent⟩
    · by_cases concerns : edit.Concerns key
      · obtain rfl := (get?_apply_of_concerns concerns).mp found
        exact .inl ⟨[], edits, rfl, silent⟩
      · rw [get?_apply_of_not_concerns concerns] at found
        exact .inr ⟨found, List.forall_mem_cons.mpr ⟨concerns, silent⟩⟩

/-- **What is there after a run.** -/
theorem get?_applyAll_iff {edits : List OptionEdit} :
    (applyAll options edits).get? key = some value ↔ Leaves options edits key value := by
  induction edits generalizing options with
  | nil => simp [applyAll, Leaves]
  | cons edit edits ih => rw [leaves_cons, ← ih, applyAll, List.foldl_cons, applyAll]

theorem applyAll_append (options : KeyMap String) (before after : List OptionEdit) :
    applyAll options (before ++ after) = applyAll (applyAll options before) after := by
  simp [applyAll]

/-- So can edits in the middle of a run. -/
theorem applyAll_comm {e f : OptionEdit} {k j : String} (ofE : e.key? = some k) (ofF : f.key? = some j)
    (different : k ≠ j) (options : KeyMap String) (before after : List OptionEdit) :
    applyAll options (before ++ e :: f :: after) = applyAll options (before ++ f :: e :: after) := by
  rw [applyAll_append, applyAll_append]
  simp only [applyAll, List.foldl_cons, apply_comm ofE ofF different]

end OptionEdit

/-! ### What the objects show of the options -/

/-- The specification with other options. -/
def ClusterSpec.withOptions (spec : ClusterSpec) (options : KeyMap String) : ClusterSpec :=
  { spec with pravega.options := options }

/-- The cluster with other options. -/
def Cluster.withOptions (c : Cluster) (options : KeyMap String) : Cluster :=
  { c with spec := c.spec.withOptions options }

/-- The objects with other flags for the virtual machine. -/
def ControllerObjects.withFlags (r : ControllerObjects) (flags : List String) : ControllerObjects :=
  { r with configMap.data := r.configMap.data.insert "JAVA_OPTS" (" ".intercalate flags) }

/-- Only one entry of the configuration depends on the options. -/
theorem configData_withOptions (name : String) (spec : ClusterSpec) (settings : Settings) (options : KeyMap String) :
    configData name (spec.withOptions options) settings =
      (configData name spec settings).insert "JAVA_OPTS"
        (" ".intercalate (javaFlags name (spec.withOptions options) settings)) := by
  refine KeyMap.ext_get? fun key => ?_
  simp only [configData, KeyMap.ofList, List.foldl_cons, List.foldl_nil, KeyMap.get?_insert]
  by_cases flags : "JAVA_OPTS" = key
  · subst flags
    simp only [String.reduceEq, if_false, if_true]
  · simp only [if_neg flags]
    rfl

theorem ControllerObjects.made_withOptions (c : Cluster) (settings : Settings) (options : KeyMap String)
    (name ns : String) (pod : PodSpec) :
    made (c.withOptions options) settings name ns pod =
      (made c settings name ns pod).withFlags (javaFlags name (c.spec.withOptions options) settings) := by
  rw [made, Cluster.withOptions, configData_withOptions]
  rfl

/-- **Nothing but the flags depends on the options.** Whether synthesis succeeds and all
else that it makes is the same with other options. -/
theorem synthesize_withOptions (c : Cluster) (settings : Settings) (options : KeyMap String) :
    synthesize (c.withOptions options) settings = (synthesize c settings).map fun r =>
      r.withFlags (javaFlags (c.metadata.name.getD "") (c.spec.withOptions options) settings) := by
  rw [synthesize_eq, synthesize_eq]
  -- The name, the namespace and the pod are had without looking at the options.
  change (do
    let name ← c.requireName
    let ns ← c.requireNamespace
    let pod ← podSpec c settings
    return ControllerObjects.made (c.withOptions options) settings name ns pod) = _
  cases named : c.requireName with
  | error fault => rfl
  | ok name =>
    have given : c.metadata.name.getD "" = name := by
      rw [(Cluster.requireName_eq_ok.mp named).1, Option.getD_some]
    cases c.requireNamespace with
    | error fault => rfl
    | ok ns =>
      cases podSpec c settings with
      | error fault => rfl
      | ok pod =>
        rw [given]
        exact congrArg Except.ok (ControllerObjects.made_withOptions c settings options name ns pod)

/-! ### Runs of edits of a cluster -/

namespace Cluster

/-- The cluster after edits of its options, from the first to the last. -/
def editAllOptions (c : Cluster) (edits : List OptionEdit) : Cluster :=
  edits.foldl editOptions c

theorem editAllOptions_eq (c : Cluster) (edits : List OptionEdit) :
    c.editAllOptions edits = c.withOptions (OptionEdit.applyAll c.spec.pravega.options edits) := by
  induction edits generalizing c with
  | nil => rfl
  | cons edit edits ih => exact ih (c.editOptions edit)

theorem editAllOptions_withOptions (c : Cluster) (start : KeyMap String) (edits : List OptionEdit) :
    (c.withOptions start).editAllOptions edits = c.withOptions (OptionEdit.applyAll start edits) :=
  editAllOptions_eq (c.withOptions start) edits

/-- Runs that leave the same options leave the same cluster, whatever each began with. -/
theorem editAllOptions_congr {c : Cluster} {edits others : List OptionEdit} {start : KeyMap String}
    (same : ∀ key, (c.editAllOptions edits).spec.pravega.options.get? key =
      ((c.withOptions start).editAllOptions others).spec.pravega.options.get? key) :
    c.editAllOptions edits = (c.withOptions start).editAllOptions others := by
  rw [editAllOptions_eq, editAllOptions_withOptions] at same ⊢
  exact congrArg c.withOptions (KeyMap.ext_get? same)

end Cluster

/-- **Options survive any run of edits, in the order of their names.** The flags behind
all others are those of the options that the run leaves, one for each, in ascending order
of the code points and of the bytes. All else that is made is what it was before the run.
Edits of different options can change places, and runs that leave the same options lead
to the same text of the configuration map. -/
theorem editAllOptions_flags (c : Cluster) (edits : List OptionEdit) (settings : Settings) :
    (∃ options : List (String × String),
      (∀ key value, (key, value) ∈ options ↔ OptionEdit.Leaves c.spec.pravega.options edits key value) ∧
      options.Pairwise (fun a b => a.1.toList < b.1.toList) ∧
      options.Pairwise (fun a b => Text.bytes a.1 < Text.bytes b.1) ∧
      ∀ cluster, javaFlags cluster (c.editAllOptions edits).spec settings =
        settings.jvm.baseline ++ ["-D" ++ settings.jvm.clusterNameProperty ++ "=" ++ cluster] ++
          gatedFlags c.spec settings.jvm ++ options.map fun e => "-D" ++ e.1 ++ "=" ++ e.2) ∧
    synthesize (c.editAllOptions edits) settings = (synthesize c settings).map (fun r =>
      r.withFlags (javaFlags (c.metadata.name.getD "") (c.editAllOptions edits).spec settings)) ∧
    (∀ (before after : List OptionEdit) (e f : OptionEdit) (k j : String),
      e.key? = some k → f.key? = some j → k ≠ j →
        c.editAllOptions (before ++ e :: f :: after) = c.editAllOptions (before ++ f :: e :: after)) ∧
    ∀ (start : KeyMap String) (others : List OptionEdit),
      (∀ key, (c.editAllOptions edits).spec.pravega.options.get? key =
        ((c.withOptions start).editAllOptions others).spec.pravega.options.get? key) →
      (configMap (c.editAllOptions edits) settings).map (fun m => Yaml.write m.toJson) =
        (configMap ((c.withOptions start).editAllOptions others) settings).map fun m => Yaml.write m.toJson := by
  refine ⟨⟨(c.editAllOptions edits).spec.pravega.options.entries, ?_, ?_, ?_, ?_⟩, ?_, ?_, ?_⟩
  · intro key value
    rw [KeyMap.mem_entries_iff, Cluster.editAllOptions_eq]
    exact OptionEdit.get?_applyAll_iff
  · exact (c.editAllOptions edits).spec.pravega.options.ascending
  · exact (c.editAllOptions edits).spec.pravega.options.ascending.imp Text.bytes_lt_iff.mpr
  · intro cluster
    rw [Cluster.editAllOptions_eq]
    rfl
  · rw [Cluster.editAllOptions_eq]
    exact synthesize_withOptions c settings _
  · intro before after e f k j ofE ofF different
    rw [Cluster.editAllOptions_eq, Cluster.editAllOptions_eq, OptionEdit.applyAll_comm ofE ofF different]
  · intro start others same
    rw [Cluster.editAllOptions_congr same]

/-- Replaced, removed and empty names, and one that another begins with. -/
example : (OptionEdit.applyAll KeyMap.empty [.insert "é" "1", .insert "" "2", .insert "z" "3",
    .insert "z=" "4", .remove "z", .insert "" "5"]).entries = [("", "5"), ("z=", "4"), ("é", "1")] := by
  decide

end ControllerSynthesis
