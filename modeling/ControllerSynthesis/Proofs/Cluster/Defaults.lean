/-
# What decoding a cluster depends on

The records of a cluster's specification and of its status are decoded from the members
that are declared for them. Other members count for nothing, wherever they stand, a
missing member means its default, and null is taken for no value by exactly those fields
that have none by default. This follows from the shapes of the records: their keys are
different, and each default is written so that it is decoded to itself.

Key definitions: `Record.Shape.fields`, `Record.Codec.FollowsDefaults`.
Key theorems: `Record.ofJson_setting_null_iff`, `Record.Codec.followsDefaults`,
`decode_follows_defaults`.
-/
import ControllerSynthesis.Proofs.Cluster.Canonical
import ControllerSynthesis.Proofs.Record.Codec
import ControllerSynthesis.Proofs.Record.Editing

namespace ControllerSynthesis

namespace Record

/-! ### Members that are null -/

/-- Whether no field takes values of any kind. -/
def Fields.ArePlain : Fields → Prop
  | .nil => True
  | .cons _ _ shape rest => shape ≠ .any ∧ rest.ArePlain

theorem Fields.ne_any_of_find? {key : String} {presence : Presence} {shape : Shape} : ∀ {fields : Fields},
    fields.ArePlain → fields.find? key = some (presence, shape) → shape ≠ .any
  | .nil, _, found => nomatch found
  | .cons own _ _ rest, plain, found => by
    by_cases same : key = own
    · rw [find?, if_pos same] at found
      cases found
      exact plain.1
    · rw [find?, if_neg same] at found
      exact ne_any_of_find? plain.2 found

/-- Null is decoded where values of any kind are, and nowhere else. -/
theorem eq_any_of_ofJson_null {shape : Shape} {made : Json} (decoded : shape.ofJson .null = .ok made) :
    shape = .any := by
  cases shape <;> first | rfl | cases decoded

theorem Fields.mem_defaults_of_find? {key : String} {presence : Presence} {shape : Shape} {value : Json} :
    ∀ {fields : Fields}, fields.find? key = some (presence, shape) → presence.default? = some value →
      (key, value) ∈ fields.defaults
  | .nil, found, _ => nomatch found
  | .cons own presence' shape' rest, found, default => by
    rw [defaults, List.mem_append, Option.mem_toList]
    by_cases same : key = own
    · rw [find?, if_pos same] at found
      cases found
      rw [default, same]
      exact .inl rfl
    · rw [find?, if_neg same] at found
      exact .inr (mem_defaults_of_find? found default)

theorem Presence.default?_of_takesNull {presence : Presence} (takes : presence.takesNull = true) :
    presence.default? = some .null := by
  cases presence <;> first | rfl | cases takes

/-- **A member may be null** exactly if that is its default. -/
theorem ofJson_setting_null_iff {name key : String} {strict : Bool} {fields : Fields} {written : List (String × Json)}
    {made : Json} (coherent : (Shape.record name strict fields).IsCoherent) (plain : fields.ArePlain)
    (decoded : (Shape.record name strict fields).ofJson (.obj written) = .ok made) (mem : key ∈ fields.keys) :
    (∃ other, (Shape.record name strict fields).ofJson (.obj (setting key .null written)) = .ok other) ↔
      (key, .null) ∈ fields.defaults := by
  obtain ⟨⟨presence, shape⟩, declared⟩ := Option.isSome_iff_exists.mp (find?_isSome_iff.mpr mem)
  obtain ⟨only, set⟩ := ofJson_setting coherent.1 decoded declared .null
  constructor
  · rintro ⟨other, again⟩
    obtain ⟨kept, own⟩ := only other again
    rcases decodeField_eq_ok.mp own with ⟨takes, -, -⟩ | ⟨-, made, own, -⟩
    · exact Fields.mem_defaults_of_find? declared (Presence.default?_of_takesNull takes)
    · exact absurd (eq_any_of_ofJson_null own) (Fields.ne_any_of_find? plain declared)
  · intro default
    obtain ⟨presence', shape', declared', null, itself⟩ := Fields.find?_of_mem_defaults coherent.1 coherent.2 default
    cases declared.symm.trans declared'
    obtain ⟨kept, -, own⟩ := decode_default itself null
    obtain ⟨-, others, -, again, -, -⟩ := set kept own
    exact ⟨_, again⟩

/-! ### Domain types -/

/-- The fields of a record; other shapes have none. -/
def Shape.fields : Shape → Fields
  | .record _ _ fields => fields
  | _ => .nil

/-- What a member of the type is decoded from are the declared members, in all records of
the value; a missing one means its default, these being the defaults of the type's own
fields; and a field takes null exactly if this is its default. -/
structure Codec.FollowsDefaults {α : Type} (c : Codec α) (defaults : List (String × Json)) : Prop where
  unknown : ∀ value other, c.shape.declared value = c.shape.declared other → c.decode value = c.decode other
  further : ∀ further value, c.decode (c.shape.extended further value) = c.decode value
  own : c.shape.fields.defaults = defaults
  missing : ∀ chosen value, c.decode (c.shape.without chosen value) = c.decode (c.shape.withDefaults chosen value)
  decodes : ∀ chosen value a, c.decode value = .ok a → ∃ b, c.decode (c.shape.without chosen value) = .ok b
  null : ∀ members a, c.decode (.obj members) = .ok a → ∀ key ∈ c.shape.fields.keys,
    (∃ b, c.decode (.obj (setting key .null members)) = .ok b) ↔ (key, .null) ∈ defaults

theorem Codec.decodes_iff {α : Type} {c : Codec α} {value : Json} :
    (∃ a, c.decode value = .ok a) ↔ ∃ made, c.shape.ofJson value = .ok made := by
  constructor
  · rintro ⟨a, decoded⟩
    obtain ⟨made, own, -⟩ := map_eq_ok.mp decoded
    exact ⟨made, own⟩
  · rintro ⟨made, own⟩
    exact ⟨c.ofJson made, map_eq_ok.mpr ⟨made, own, rfl⟩⟩

/-- **A record whose shape is coherent follows its defaults.** -/
theorem Codec.followsDefaults {α : Type} (c : Codec α)
    (record : ∃ name strict, c.shape = .record name strict c.shape.fields) (coherent : c.shape.IsCoherent)
    (plain : c.shape.fields.ArePlain) : c.FollowsDefaults c.shape.fields.defaults where
  unknown value other declared := by
    have decoded : c.shape.ofJson value = c.shape.ofJson other := by
      rw [← ofJson_declared coherent value, declared, ofJson_declared coherent other]
    rw [decode, decode, decoded]
  further further value := by rw [decode, decode, ofJson_extended coherent]
  own := rfl
  missing chosen value := by rw [decode, decode, ofJson_without coherent]
  decodes chosen value a decoded := by
    obtain ⟨made, own⟩ := decodes_iff.mp ⟨a, decoded⟩
    exact decodes_iff.mpr (decodes_without coherent chosen own)
  null members a decoded key mem := by
    obtain ⟨name, strict, same⟩ := record
    obtain ⟨made, own⟩ := decodes_iff.mp ⟨a, decoded⟩
    rw [same] at own coherent
    rw [decodes_iff]
    have null := ofJson_setting_null_iff coherent plain own mem
    rwa [← same] at null

end Record

open Record

/-! ### The shapes of a cluster are coherent -/

theorem ResourceClaim.isCoherent_shape : shape.IsCoherent :=
  ⟨by decide, nofun, trivial, nofun, trivial, trivial⟩

theorem Resources.isCoherent_shape : shape.IsCoherent :=
  ⟨by decide, nofun, ResourceClaim.isCoherent_shape, nofun, trivial, nofun, trivial, trivial⟩

/-- A default that is written as it is decoded. -/
theorem ofJson_default {shape : Shape} {default : Json} (itself : shape.ofJson default = .ok default) :
    ∀ value, Presence.defaulted default = .defaulted value → shape.ofJson value = .ok value := by
  intro value same
  cases same
  exact itself

theorem TlsSpec.isCoherent_shape : shape.IsCoherent :=
  ⟨by decide, ofJson_default rfl, trivial, nofun, trivial, trivial⟩

theorem ExternalAccess.isCoherent_shape : shape.IsCoherent :=
  ⟨by decide, ofJson_default rfl, trivial, nofun, trivial, trivial⟩

theorem ImageSpec.isCoherent_shape : shape.IsCoherent :=
  ⟨by decide, nofun, trivial, nofun, trivial, nofun, trivial, trivial⟩

theorem PravegaSpec.isCoherent_shape : shape.IsCoherent :=
  ⟨by decide, ofJson_default rfl, trivial, nofun, Resources.isCoherent_shape, nofun, trivial, nofun,
    ImageSpec.isCoherent_shape, ofJson_default rfl, trivial, trivial⟩

theorem ClusterSpec.isCoherent_shape : shape.IsCoherent :=
  ⟨by decide, nofun, trivial, nofun, trivial, nofun, TlsSpec.isCoherent_shape, nofun, ExternalAccess.isCoherent_shape,
    ofJson_default (ofJson_canonical (PravegaSpec.given_toJson (by decide) 0).1), PravegaSpec.isCoherent_shape, trivial⟩

theorem Condition.isCoherent_shape : shape.IsCoherent :=
  ⟨by decide, nofun, trivial, nofun, trivial, nofun, trivial, nofun, trivial, nofun, trivial, trivial⟩

theorem ClusterStatus.isCoherent_shape : shape.IsCoherent :=
  ⟨by decide, ofJson_default rfl, Condition.isCoherent_shape, nofun, trivial, nofun, trivial, trivial⟩

/-! ### The records of a cluster -/

/-- **The records of a cluster are decoded from their declared members**, a missing member
means its default, and null is taken where it is the default. Nothing at all is decoded
to the controller's part with all its defaults. -/
theorem decode_follows_defaults :
    ClusterSpec.codec.FollowsDefaults
      [("tls", .null), ("externalAccess", .null), ("pravega", PravegaSpec.codec.toJson {})] ∧
    TlsSpec.codec.FollowsDefaults [("enabled", .bool false), ("controllerSecret", .null)] ∧
    ExternalAccess.codec.FollowsDefaults [("enabled", .bool false), ("type", .null)] ∧
    PravegaSpec.codec.FollowsDefaults
      [("controllerReplicas", .int 1), ("controllerResources", .null), ("controllerServiceAccountName", .null),
        ("image", .null), ("options", .obj [])] ∧
    ImageSpec.codec.FollowsDefaults [("repository", .null), ("tag", .null), ("pullPolicy", .null)] ∧
    Condition.codec.FollowsDefaults [("reason", .null), ("message", .null), ("lastTransitionTime", .null)] ∧
    ClusterStatus.codec.FollowsDefaults
      [("conditions", .arr []), ("observedGeneration", .null), ("controllerReadyReplicas", .null)] ∧
    PravegaSpec.codec.decode (.obj []) = .ok {} := by
  refine ⟨?_, ?_, ?_, ?_, ?_, ?_, ?_, rfl⟩
  · exact ClusterSpec.codec.followsDefaults ⟨_, _, rfl⟩ ClusterSpec.isCoherent_shape ⟨nofun, nofun, nofun, nofun, nofun, trivial⟩
  · exact TlsSpec.codec.followsDefaults ⟨_, _, rfl⟩ TlsSpec.isCoherent_shape ⟨nofun, nofun, trivial⟩
  · exact ExternalAccess.codec.followsDefaults ⟨_, _, rfl⟩ ExternalAccess.isCoherent_shape ⟨nofun, nofun, trivial⟩
  · exact PravegaSpec.codec.followsDefaults ⟨_, _, rfl⟩ PravegaSpec.isCoherent_shape ⟨nofun, nofun, nofun, nofun, nofun, trivial⟩
  · exact ImageSpec.codec.followsDefaults ⟨_, _, rfl⟩ ImageSpec.isCoherent_shape ⟨nofun, nofun, nofun, trivial⟩
  · exact Condition.codec.followsDefaults ⟨_, _, rfl⟩ Condition.isCoherent_shape ⟨nofun, nofun, nofun, nofun, nofun, trivial⟩
  · exact ClusterStatus.codec.followsDefaults ⟨_, _, rfl⟩ ClusterStatus.isCoherent_shape ⟨nofun, nofun, nofun, trivial⟩

/-- A member that nobody knows, in TLS settings without any other. -/
example : ClusterSpec.codec.decode (.obj [("zookeeperUri", .str "zk:2181"), ("version", .str "0.5.0"),
    ("tls", .obj [("since", .int 3)])]) =
    .ok { version := "0.5.0", zookeeperUri := "zk:2181", tls := some {} } := rfl

end ControllerSynthesis
