/-
# Words that mean something else

A version may look like a number, an address like a truth value, and the value of an
option like nothing at all. In a manifest written by hand they stand as they are: each
is a text, and it is read as this text, whatever it would mean elsewhere and whether or
not it stands between quotes. The configuration that is written for such a cluster has
the address as text too: there the writer sets it between quotes if it must.

Key definitions: `Manifest.isWord`, `Manifest.byHand`, `Manifest.Blanks`.
Key theorems: `Manifest.allows_of_isWord`, `Manifest.read_byHand`,
`Manifest.words_stand_for_themselves`.
-/
import ControllerSynthesis.Proofs.Json.Ordered
import ControllerSynthesis.Proofs.Manifest.Stream
import ControllerSynthesis.Proofs.Manifest.Namespace
import ControllerSynthesis.Proofs.Record.Layout

namespace ControllerSynthesis

namespace Manifest

open Yaml (Quoting Layout isInner isOrdinary isSimpleKey)
open Yaml.Layout (written members members_eq_map members_append members_written areSound areSound_iff areSound_append
  areSound_written entriesSuit entriesSuit_iff entriesSuit_append entriesSuit_written)

/-! ### Words -/

/-- The characters of words. -/
def isWordChar (c : Char) : Bool :=
  c.isAlphanum || c == '.' || c == '_' || c == '+' || c == '-' || c == '/'

/-- Whether a text is such characters behind a letter or a digit. -/
def isWord (text : String) : Bool :=
  match text.toList with
  | [] => false
  | c :: cs => c.isAlphanum && cs.all isWordChar

theorem toNat_lt_of_isAlphanum {c : Char} (alphanum : c.isAlphanum = true) : c.toNat < 128 := by
  have kinds : (c.isUpper || c.isLower || c.isDigit) = true := alphanum
  have bound {last : Char} (ascii : last.toNat < 128) (below : c.val ≤ last.val) : c.toNat < 128 := by
    have own : c.toNat ≤ last.toNat := UInt32.le_iff_toNat_le.mp below
    omega
  rw [Bool.or_eq_true, Bool.or_eq_true] at kinds
  rcases kinds with (upper | lower) | digit
  · exact bound (by decide : 'Z'.toNat < 128) (of_decide_eq_true upper).2
  · exact bound (by decide : 'z'.toNat < 128) (of_decide_eq_true ((Bool.and_eq_true _ _).mp lower).2)
  · exact bound (by decide : '9'.toNat < 128) (of_decide_eq_true ((Bool.and_eq_true _ _).mp digit).2)

/-- What holds of all letters and digits. -/
theorem forall_isAlphanum {P : Char → Prop} (all : ∀ n : Fin 128, (Char.ofNat n).isAlphanum = true → P (Char.ofNat n))
    {c : Char} (alphanum : c.isAlphanum = true) : P c := by
  have own := all ⟨c.toNat, toNat_lt_of_isAlphanum alphanum⟩
  simp only [Char.ofNat_toNat] at own
  exact own alphanum

theorem isOrdinary_of_isAlphanum {c : Char} (alphanum : c.isAlphanum = true) : isOrdinary c = true :=
  forall_isAlphanum (P := fun c => isOrdinary c = true) (by decide) alphanum

/-- The characters of words are special neither in plain texts nor between quotes. -/
theorem unquoted_of_isWordChar {c : Char} (wordly : isWordChar c = true) :
    isInner c = true ∧ c ≠ '\'' ∧ c ≠ '"' ∧ c ≠ '\\' := by
  simp only [isWordChar, Bool.or_eq_true, beq_iff_eq] at wordly
  rcases wordly with ((((alphanum | rfl) | rfl) | rfl) | rfl) | rfl
  · exact forall_isAlphanum (P := fun c => isInner c = true ∧ c ≠ '\'' ∧ c ≠ '"' ∧ c ≠ '\\') (by decide) alphanum
  all_goals decide

/-- **A word may be written plain or between quotes**, as it is. -/
theorem allows_of_isWord (quoting : Quoting) {text : String} (word : isWord text = true) :
    quoting.allows text.toList = true := by
  unfold isWord at word
  split at word
  · cases word
  · rename_i c cs chars
    rw [Bool.and_eq_true, List.all_eq_true] at word
    have wordly : ∀ d ∈ c :: cs, isWordChar d = true :=
      List.forall_mem_cons.mpr ⟨by simp [isWordChar, word.1], word.2⟩
    have shown (d : Char) (mem : d ∈ c :: cs) : Yaml.isShown d = true ∧ Yaml.isBreak d = false := by
      have inner := Yaml.isInner_iff.mp (unquoted_of_isWordChar (wordly d mem)).1
      exact ⟨inner.1, inner.2.2.1⟩
    rw [chars]
    cases quoting with
    | plain =>
      have plain := Yaml.allowsPlain_of_ordinary_head (isOrdinary_of_isAlphanum word.1) fun d mem =>
        (unquoted_of_isWordChar (word.2 d mem)).1
      exact Quoting.allows_plain_iff.mpr ⟨List.cons_ne_nil c cs, plain⟩
    | single =>
      refine List.all_eq_true.mpr fun d mem => ?_
      obtain ⟨-, single, -⟩ := unquoted_of_isWordChar (wordly d mem)
      simp [shown d mem, single]
    | double =>
      refine List.all_eq_true.mpr fun d mem => ?_
      obtain ⟨-, -, double, backslash⟩ := unquoted_of_isWordChar (wordly d mem)
      simp [shown d mem, double, backslash]

/-! ### Manifests by hand -/

/-- How the texts are written by hand that say the version, the address, and the value of
an option. -/
structure Hand where
  version : Quoting
  address : Quoting
  option : Quoting
  deriving Repr, DecidableEq

/-- The options, with the value of one of them written by hand. -/
def laidOptions (quoting : Quoting) (name : String) (options : KeyMap String) : List (String × Layout) :=
  options.entries.map fun e => (e.1, if e.1 = name then .spelled quoting e.2 else .value (.str e.2))

/-- The fields of the controller in front of its options. -/
def controllerFields (p : PravegaSpec) : List (String × Json) :=
  [("controllerReplicas", .int p.controllerReplicas),
    ("controllerResources", (p.controllerResources.map Resources.toJson).getD .null),
    ("controllerServiceAccountName", Json.textOrNull p.controllerServiceAccountName),
    ("image", (p.image.map ImageSpec.toJson).getD .null)]

/-- The part of the controller. -/
def laidController (quoting : Quoting) (name : String) (p : PravegaSpec) : List (String × Layout) :=
  written (controllerFields p) ++ [("options", .block (laidOptions quoting name p.options))]

/-- The fields of a specification between its address and the controller. -/
def accessFields (s : ClusterSpec) : List (String × Json) :=
  [("tls", (s.tls.map TlsSpec.toJson).getD .null),
    ("externalAccess", (s.externalAccess.map ExternalAccess.toJson).getD .null)]

/-- The specification, with its version and its address written by hand. -/
def laidSpec (hand : Hand) (name : String) (s : ClusterSpec) : List (String × Layout) :=
  ("version", .spelled hand.version s.version) :: ("zookeeperUri", .spelled hand.address s.zookeeperUri) ::
    (written (accessFields s) ++ [("pravega", .block (laidController hand.option name s.pravega))])

/-- What stands in front of the specification. -/
def frontFields (c : Cluster) : List (String × Json) :=
  [("apiVersion", .str Cluster.apiVersion), ("kind", .str Cluster.kind), ("metadata", c.metadata.toJson)]

/-- The manifest of a cluster in which three texts are written by hand: the version, the
address, and the value of the option of a name. -/
def laidOut (hand : Hand) (name : String) (c : Cluster) : List (String × Layout) :=
  written (frontFields c) ++ ("spec", .block (laidSpec hand name c.spec)) ::
    written (Json.optional "status" (c.status.map ClusterStatus.toJson))

/-- The text of this manifest. -/
def byHand (hand : Hand) (name : String) (c : Cluster) : String :=
  Layout.document (laidOut hand name c)

variable {hand : Hand} {name : String} {c : Cluster}

theorem members_laidOptions (quoting : Quoting) (name : String) (options : KeyMap String) :
    members (laidOptions quoting name options) = options.entries.map fun e => (e.1, .str e.2) := by
  rw [members_eq_map, laidOptions, List.map_map]
  refine List.map_congr_left fun e _ => ?_
  by_cases same : e.1 = name <;> simp [same, Layout.toJson]

/-- What is laid out is the cluster, with its version and its kind in front. -/
theorem members_laidOut (hand : Hand) (name : String) (c : Cluster) :
    members (laidOut hand name c) =
      [("apiVersion", .str Cluster.apiVersion), ("kind", .str Cluster.kind)] ++ c.members := by
  have controller : Json.obj (members (laidController hand.option name c.spec.pravega)) = c.spec.pravega.toJson := by
    rw [laidController, members_append, members_written, members, members, Layout.toJson, members_laidOptions]
    rfl
  have spec : Json.obj (members (laidSpec hand name c.spec)) = c.spec.toJson := by
    simp only [laidSpec, members, members_append, members_written, Layout.toJson, controller]
    rfl
  simp only [laidOut, members_append, members_written, members, Layout.toJson, spec]
  rfl

theorem areSound_laidOptions {quoting : Quoting} {options : KeyMap String} {text : String}
    (near : ∀ e ∈ options.entries, isSimpleKey e.1 = true) (there : options.get? name = some text)
    (allowed : quoting.allows text.toList = true) : areSound (laidOptions quoting name options) = true := by
  refine areSound_iff.mpr fun e mem => ?_
  obtain ⟨own, entry, rfl⟩ := List.mem_map.mp mem
  refine ⟨near own entry, ?_⟩
  by_cases same : own.1 = name
  · have found : options.get? name = some own.2 := (KeyMap.mem_entries_iff _ _ _).mp (same ▸ entry)
    rw [there] at found
    simpa [same, Layout.isSound, ← Option.some.inj found] using allowed
  · simp [same, Layout.isSound, Json.isExact]

/-- The controller's part is whole if it has the option. -/
theorem areSound_laidController {quoting : Quoting} {p : PravegaSpec} {text : String} (whole : p.toJson.isExact = true)
    (near : ∀ e ∈ p.options.entries, isSimpleKey e.1 = true) (there : p.options.get? name = some text)
    (allowed : quoting.allows text.toList = true) : areSound (laidController quoting name p) = true := by
  have all := Json.membersExact_iff.mp (by rwa [PravegaSpec.toJson, Json.isExact] at whole)
  have some : (laidOptions quoting name p.options).isEmpty = false := by
    have mem := (KeyMap.mem_entries_iff p.options name text).mpr there
    cases entries : p.options.entries with
    | nil => simp [entries] at mem
    | cons e es => simp [laidOptions, entries]
  refine areSound_append.mpr ⟨areSound_written (by simp +decide [controllerFields]) fun m mem => all m ?_, ?_⟩
  · exact List.mem_append_left [("options", Json.ofKeyMap p.options)] mem
  · simp +decide [areSound, Layout.isSound, some, areSound_laidOptions near there allowed]

/-- The specification is whole if its texts may be written so. -/
theorem areSound_laidSpec {spec : ClusterSpec} {text : String} (whole : spec.toJson.isExact = true)
    (near : ∀ e ∈ spec.pravega.options.entries, isSimpleKey e.1 = true)
    (version : hand.version.allows spec.version.toList = true)
    (address : hand.address.allows spec.zookeeperUri.toList = true)
    (there : spec.pravega.options.get? name = some text) (option : hand.option.allows text.toList = true) :
    areSound (laidSpec hand name spec) = true := by
  have all := Json.membersExact_iff.mp (by rwa [ClusterSpec.toJson, Json.isExact] at whole)
  have access : areSound (written (accessFields spec)) = true := by
    refine areSound_written (by simp +decide [accessFields]) fun m mem => all m ?_
    exact List.mem_cons_of_mem _ (List.mem_cons_of_mem _ (List.mem_append_left [("pravega", spec.pravega.toJson)] mem))
  have controller : areSound (laidController hand.option name spec.pravega) = true :=
    areSound_laidController (all ("pravega", spec.pravega.toJson) (by simp)) near there option
  have some : (laidController hand.option name spec.pravega).isEmpty = false := rfl
  have behind : areSound (written (accessFields spec) ++
      [("pravega", .block (laidController hand.option name spec.pravega))]) = true := by
    refine areSound_append.mpr ⟨access, ?_⟩
    simp +decide [areSound, Layout.isSound, some, controller]
  simp +decide [laidSpec, areSound, Layout.isSound, version, address, behind]

/-- So is the manifest. -/
theorem areSound_laidOut (plain : c.IsPlain) (near : ∀ e ∈ c.spec.pravega.options.entries, isSimpleKey e.1 = true)
    (version : hand.version.allows c.spec.version.toList = true)
    (address : hand.address.allows c.spec.zookeeperUri.toList = true) {text : String}
    (there : c.spec.pravega.options.get? name = some text) (option : hand.option.allows text.toList = true) :
    areSound (laidOut hand name c) = true := by
  have canonical : Cluster.fields.Canonical Record.readsAny 1 c.members :=
    Cluster.canonical_members plain.isReadable
  have all : ∀ m ∈ c.members, m.2.isExact = true :=
    Json.membersExact_iff.mp (Json.membersExact_of_membersIntegral canonical.membersIntegral)
  have spec : areSound (laidSpec hand name c.spec) = true :=
    areSound_laidSpec (all ("spec", c.spec.toJson) (List.mem_cons_of_mem _ List.mem_cons_self)) near version address
      there option
  have front : areSound (written (frontFields c)) = true := by
    refine areSound_written (by simp +decide [frontFields]) ?_
    simp [frontFields, Json.isExact, all ("metadata", c.metadata.toJson) List.mem_cons_self]
  have status : areSound (written (Json.optional "status" (c.status.map ClusterStatus.toJson))) = true := by
    refine areSound_written ?_ fun m mem => all m (by simp [Cluster.members, mem])
    cases c.status <;> simp +decide [Json.optional]
  have some : (laidSpec hand name c.spec).isEmpty = false := rfl
  refine areSound_append.mpr ⟨front, ?_⟩
  simp +decide [areSound, Layout.isSound, some, spec, status]

/-- All texts by hand stand where clusters have texts. -/
theorem suits_laidOut (hand : Hand) (name : String) (c : Cluster) :
    (Layout.block (laidOut hand name c)).suits Cluster.shape = true := by
  have options : entriesSuit (laidOptions hand.option name c.spec.pravega.options)
      (fun _ => some (.required, .text)) = true := by
    refine entriesSuit_iff.mpr fun e mem field own => ?_
    obtain ⟨entry, -, rfl⟩ := List.mem_map.mp mem
    cases own
    by_cases same : entry.1 = name <;> simp [same, Record.Presence.takesNull]
  have controller : (Layout.block (laidController hand.option name c.spec.pravega)).suits PravegaSpec.shape = true := by
    rw [PravegaSpec.shape, Layout.suits_record, laidController, entriesSuit_append]
    refine ⟨entriesSuit_written _ _, ?_⟩
    simp [entriesSuit, Record.Fields.find?, Layout.isSpelled, options]
  have spec : (Layout.block (laidSpec hand name c.spec)).suits ClusterSpec.shape = true := by
    simp [ClusterSpec.shape, laidSpec, entriesSuit, entriesSuit_append, entriesSuit_written, Record.Fields.find?,
      Layout.isSpelled, Record.Presence.takesNull, controller]
  rw [Cluster.shape_eq, Layout.suits_record, laidOut, entriesSuit_append]
  refine ⟨entriesSuit_written _ _, ?_⟩
  simp [Cluster.fields, entriesSuit, entriesSuit_written, Record.Fields.find?, Layout.isSpelled, spec]

/-- **A manifest by hand is read as the cluster.** -/
theorem read_byHand (plain : c.IsPlain) (near : ∀ e ∈ c.spec.pravega.options.entries, isSimpleKey e.1 = true)
    (version : hand.version.allows c.spec.version.toList = true)
    (address : hand.address.allows c.spec.zookeeperUri.toList = true) {text : String}
    (there : c.spec.pravega.options.get? name = some text) (option : hand.option.allows text.toList = true)
    (given : Option String) : read (byHand hand name c) given = .ok (place given c) := by
  have same : Cluster.shape.ofYaml (byHand hand name c) = Cluster.shape.ofYaml (write c) := by
    rw [byHand, Record.ofYaml_document (areSound_laidOut plain near version address there option)
      (List.cons_ne_nil _ _) (suits_laidOut hand name c), members_laidOut, write, Cluster.toJson_eq]
  calc read (byHand hand name c) given
    _ = read (write c) given := by rw [read, read, same]
    _ = .ok (place given c) := read_write plain given

/-! ### One word in three places -/

/-- The cluster with one text as its version, its address, and the value of an option. -/
def saying (name text : String) (c : Cluster) : Cluster :=
  { c with spec := { c.spec with
      version := text
      zookeeperUri := text
      pravega := { c.spec.pravega with options := c.spec.pravega.options.insert name text } } }

/-- A manifest with blanks for the version, the address, and the value of an option. -/
structure Blanks where
  head : String
  body : String
  tail : String

/-- The manifest with its blanks filled in. -/
def Blanks.fill (b : Blanks) (version address option : String) : String :=
  b.head ++ "version: " ++ version ++ "\n  zookeeperUri: " ++ address ++ "\n" ++ b.body ++ ": " ++ option ++ "\n" ++
    b.tail

/-- A text between its quotes, if it has any. -/
def quoted : Quoting → String → String
  | .plain, text => text
  | .single, text => "'" ++ text ++ "'"
  | .double, text => "\"" ++ text ++ "\""

@[simp] theorem toList_quoted (quoting : Quoting) (text : String) :
    (quoted quoting text).toList = quoting.spell text.toList := by
  cases quoting <;> simp [quoted, Quoting.spell]

theorem isPlain_saying (plain : c.IsPlain) (name text : String) : (saying name text c).IsPlain :=
  ⟨plain.metadata, plain.replicas, plain.status⟩

theorem near_saying (near : ∀ e ∈ c.spec.pravega.options.entries, isSimpleKey e.1 = true)
    (simple : isSimpleKey name = true) (text : String) :
    ∀ e ∈ (saying name text c).spec.pravega.options.entries, isSimpleKey e.1 = true := by
  intro e mem
  rcases KeyMap.mem_insertEntry mem with rfl | old
  · exact simple
  · exact near e old

/-- The option's line and what stands around it. -/
theorem exists_option (column : Nat) (name : String) (options : KeyMap String) : ∃ before after,
    ∀ (quoting : Quoting) (text : String), Layout.writeLines column (laidOptions quoting name (options.insert name text)) =
      before ++ (": " ++ quoted quoting text ++ "\n").toList ++ after := by
  obtain ⟨front, back, entries, others⟩ := options.exists_insert name
  let texts (es : List (String × String)) : List (String × Json) := es.map fun e => (e.1, .str e.2)
  obtain ⟨before, after, around⟩ := Layout.exists_writeLines column name (written (texts front)) (written (texts back))
  refine ⟨before ++ Yaml.writeText (column + 2) name.toList, after, fun quoting text => ?_⟩
  have own {es : List (String × String)} (others : ∀ e ∈ es, e.1 ≠ name) :
      es.map (fun e => (e.1, if e.1 = name then Layout.spelled quoting e.2 else .value (.str e.2))) =
        written (texts es) := by
    rw [written, List.map_map]
    exact List.map_congr_left fun e mem => congrArg (Prod.mk e.1) (if_neg (others e mem))
  have all := List.forall_mem_append.mp others
  have laid : laidOptions quoting name (options.insert name text) =
      written (texts front) ++ (name, .spelled quoting text) :: written (texts back) := by
    rw [laidOptions, entries, List.map_append, List.map_cons, own all.1, own all.2, if_pos rfl]
  rw [laid, around]
  simp [Layout.write]

/-- The controller's part around that line. -/
theorem exists_controller (column : Nat) (name : String) (p : PravegaSpec) : ∃ before after,
    ∀ (quoting : Quoting) (text : String),
      Layout.writeLines column (laidController quoting name { p with options := p.options.insert name text }) =
        before ++ (": " ++ quoted quoting text ++ "\n").toList ++ after := by
  obtain ⟨front, back, option⟩ := exists_option (column + 2) name p.options
  obtain ⟨before, after, around⟩ := Layout.exists_writeLines column "options" (written (controllerFields p)) []
  refine ⟨before ++ Yaml.writeText (column + 2) "options".toList ++ ':' :: '\n' :: Yaml.pad (column + 2) ++ front,
    back ++ after, fun quoting text => ?_⟩
  have laid : Layout.writeLines column (laidController quoting name { p with options := p.options.insert name text }) =
      before ++ Yaml.writeText (column + 2) "options".toList ++
        ':' :: Layout.write column (.block (laidOptions quoting name (p.options.insert name text))) ++ after :=
    around _
  rw [laid, Layout.write, option]
  simp

/-- The specification around the three texts. -/
theorem exists_spec (name : String) (spec : ClusterSpec) : ∃ body tail, ∀ (hand : Hand) (text : String),
    Layout.writeLines 2 (laidSpec hand name { spec with
        version := text
        zookeeperUri := text
        pravega := { spec.pravega with options := spec.pravega.options.insert name text } }) =
      ("version: " ++ quoted hand.version text ++ "\n  zookeeperUri: " ++ quoted hand.address text ++ "\n").toList ++
        body ++ (": " ++ quoted hand.option text ++ "\n").toList ++ tail := by
  obtain ⟨front, back, controller⟩ := exists_controller 4 name spec.pravega
  obtain ⟨before, after, around⟩ := Layout.exists_writeLines 2 "pravega" (written (accessFields spec)) []
  refine ⟨Yaml.pad 2 ++ before ++ Yaml.writeText 4 "pravega".toList ++ ':' :: '\n' :: Yaml.pad 4 ++ front,
    back ++ after, fun hand text => ?_⟩
  have behind : Layout.writeLines 2 (written (accessFields spec) ++
        [("pravega", .block (laidController hand.option name
          { spec.pravega with options := spec.pravega.options.insert name text }))]) = _ := around _
  have version : Yaml.writeText 4 "version".toList = "version".toList := by decide
  have address : Yaml.writeText 4 "zookeeperUri".toList = "zookeeperUri".toList := by decide
  rw [Layout.write, controller] at behind
  rw [laidSpec, Layout.writeLines_cons_cons]
  simp only [accessFields, written, List.map_cons, List.cons_append] at behind ⊢
  rw [Layout.writeLines_cons_cons, behind, version, address]
  simp [Layout.write, Yaml.pad]

/-- **The manifest by hand is the same for all texts, but for its blanks.** -/
theorem exists_blanks (name : String) (c : Cluster) : ∃ blanks : Blanks, ∀ (hand : Hand) (text : String),
    byHand hand name (saying name text c) =
      blanks.fill (quoted hand.version text) (quoted hand.address text) (quoted hand.option text) := by
  obtain ⟨body, tail, spec⟩ := exists_spec name c.spec
  obtain ⟨before, after, around⟩ := Layout.exists_writeLines 0 "spec" (written (frontFields c))
    (written (Json.optional "status" (c.status.map ClusterStatus.toJson)))
  refine ⟨⟨String.ofList (before ++ Yaml.writeText 2 "spec".toList ++ ':' :: '\n' :: Yaml.pad 2), String.ofList body,
    String.ofList (tail ++ after)⟩, fun hand text => ?_⟩
  have laid : Layout.writeLines 0 (laidOut hand name (saying name text c)) =
      before ++ Yaml.writeText 2 "spec".toList ++
        ':' :: Layout.write 0 (.block (laidSpec hand name (saying name text c).spec)) ++ after := around _
  rw [saying, Layout.write, spec] at laid
  apply String.toList_injective
  rw [byHand, Layout.document, String.toList_ofList, saying, laid, Blanks.fill]
  simp

/-! ### The configuration, written and read -/

/-- What is rendered begins with the configuration. -/
theorem exists_render (r : ControllerObjects) : ∃ rest, render r = Yaml.write r.configMap.toJson ++ "---\n" ++ rest :=
  ⟨Yaml.write r.service.toJson ++ "---\n" ++ Yaml.write r.deployment.toJson ++ "---\n" ++
    Yaml.write r.disruptionBudget.toJson, by simp only [render_eq, String.append_assoc]⟩

/-- **The configuration is read back as the texts that it has.** -/
theorem get_reread {m : ConfigMap} (plain : m.metadata.IsPlain) : ∃ value,
    Record.Shape.any.ofYaml (Yaml.write m.toJson) = .ok value ∧
      ∀ key, (value.get "data").get key = ((m.data.get? key).map Json.str).getD .null := by
  have document : IsDocument m.toJson := isDocument_objectJson (m.readable_toJson plain)
  refine ⟨_, document.reads, fun key => ?_⟩
  have data : m.toJson.ordered.get "data" = (Json.ofKeyMap m.data).ordered :=
    Json.get_ordered (by simp) "data"
  rw [data, Json.ordered_ofKeyMap, Json.get_ofKeyMap]

/-- **Words stand for themselves**, whatever they would mean elsewhere. In the manifest of
a cluster by hand there are three blanks, for the version, the address, and the value of an
option. Filled in with a word, plain or between quotes of either kind, it is read, and all
three are the word. The configuration that is rendered for the cluster, read again, has the
word as text where the address of Zookeeper stands. -/
theorem words_stand_for_themselves (c : Cluster) (plain : c.IsPlain)
    (near : ∀ e ∈ c.spec.pravega.options.entries, isSimpleKey e.1 = true) (name : String)
    (simple : isSimpleKey name = true) :
    ∃ blanks : Blanks, ∀ p : String, isWord p = true → ∀ (version address option : Quoting) (given : Option String),
      blanks.fill (quoted version p) (quoted address p) (quoted option p) =
          byHand ⟨version, address, option⟩ name (saying name p c) ∧
      ∃ loaded, read (blanks.fill (quoted version p) (quoted address p) (quoted option p)) given = .ok loaded ∧
        loaded = place given (saying name p c) ∧
        loaded.spec.version = p ∧ loaded.spec.zookeeperUri = p ∧ loaded.spec.pravega.options.get? name = some p ∧
        ∀ settings : Settings, (∀ field, (place given c).Has field) → ∃ r, synthesize loaded settings = .ok r ∧
          ∃ rest value, render r = Yaml.write r.configMap.toJson ++ "---\n" ++ rest ∧
            Record.Shape.any.ofYaml (Yaml.write r.configMap.toJson) = .ok value ∧
            (value.get "data").get "ZK_URL" = .str p := by
  obtain ⟨blanks, filled⟩ := exists_blanks name c
  refine ⟨blanks, fun p word version address option given => ?_⟩
  have text := filled ⟨version, address, option⟩ p
  have there : (saying name p c).spec.pravega.options.get? name = some p := by simp [saying]
  have loaded : read (byHand ⟨version, address, option⟩ name (saying name p c)) given =
      .ok (place given (saying name p c)) :=
    read_byHand (isPlain_saying plain name p) (near_saying near simple p) (allows_of_isWord version word)
      (allows_of_isWord address word) there (allows_of_isWord option word) given
  refine ⟨text.symm, place given (saying name p c), text ▸ loaded, rfl, rfl, rfl, there, fun settings has => ?_⟩
  have had : ∀ field ∈ [RequiredField.name, .namespaceName, .resources, .secret],
      (place given (saying name p c)).Has field := by
    intro field _
    have own := has field
    cases field <;> exact own
  obtain ⟨r, made⟩ := (synthesize_asks (place given (saying name p c)) settings).succeeds_iff.mpr had
  obtain ⟨cluster, ns, pod, -, -, -, rfl⟩ := synthesize_eq_ok.mp made
  obtain ⟨value, reads, data⟩ := get_reread (m := (ControllerObjects.made _ settings cluster ns pod).configMap)
    (Naming.isPlain_metadata cluster ns Naming.controllerRole)
  have url : (configData cluster (saying name p c).spec settings).get? "ZK_URL" = some p := by
    simp [configData, KeyMap.ofList, saying]
  obtain ⟨rest, rendered⟩ := exists_render (ControllerObjects.made _ settings cluster ns pod)
  refine ⟨_, made, rest, value, rendered, reads, ?_⟩
  rw [data]
  exact congrArg (fun text => (text.map Json.str).getD .null) url

/-- Words that would be numbers, truth values or nothing are texts where texts are wanted. -/
theorem words_stand_for_themselves_housed : ∃ blanks : Blanks,
    ∀ p ∈ ["0.10", "1e3", "0x1F", "007", "true", "no", "null"], ∃ loaded,
      read (blanks.fill p p p) none = .ok loaded ∧ read (blanks.fill p ("'" ++ p ++ "'") ("\"" ++ p ++ "\"")) none = .ok loaded ∧
      loaded.spec.version = p ∧ loaded.spec.zookeeperUri = p ∧ loaded.spec.pravega.options.get? "k" = some p ∧
      ∃ r value, synthesize loaded {} = .ok r ∧
        Record.Shape.any.ofYaml (Yaml.write r.configMap.toJson) = .ok value ∧
        (value.get "data").get "ZK_URL" = .str p := by
  obtain ⟨blanks, stands⟩ := words_stand_for_themselves housed isPlain_housed (by decide) "k" (by decide)
  refine ⟨blanks, fun p mem => ?_⟩
  have word : isWord p = true := by
    revert p
    decide
  obtain ⟨-, loaded, same, rfl, version, address, option, rendered⟩ := stands p word .plain .plain .plain none
  obtain ⟨-, other, sameToo, rfl, -⟩ := stands p word .plain .single .double none
  obtain ⟨r, made, rest, value, -, reads, url⟩ := rendered {} (by intro field; cases field <;> decide)
  exact ⟨_, same, sameToo, version, address, option, r, value, made, reads, url⟩

example : Layout.document [("version", .spelled .single "0.10"), ("k", .spelled .double "no")] =
    "version: '0.10'\nk: \"no\"\n" := by
  rfl

end Manifest

end ControllerSynthesis
