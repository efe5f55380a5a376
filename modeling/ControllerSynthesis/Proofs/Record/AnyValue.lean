/-
# Values of any kind read back

What is written for a value and read as a value of any kind is the same value, with
the members of its objects in the order of their keys. A text comes back as text,
whatever it looks like: it is written plain only if it means nothing else. Only
values that are nested deeper than the reader goes are not read.

Key definitions: `Json.fits`.
Key theorems: `Record.scalarMeaning_formOf`, `Record.yamlAny_ofJson`, `Record.ofYaml_any`.
-/
import ControllerSynthesis.Json.Value
import ControllerSynthesis.Proofs.Yaml.Building

namespace ControllerSynthesis

namespace Json

mutual

/-- Whether a value is at most so many lists and objects deep. -/
def fits : Json → Nat → Bool
  | .arr _, 0 => false
  | .arr items, depth + 1 => itemsFit items depth
  | .obj _, 0 => false
  | .obj members, depth + 1 => membersFit members depth
  | .null, _ => true
  | .bool _, _ => true
  | .int _, _ => true
  | .float _, _ => true
  | .str _, _ => true

/-- Whether this holds of all items of a list. -/
def itemsFit : List Json → Nat → Bool
  | [], _ => true
  | item :: items, depth => item.fits depth && itemsFit items depth

/-- Whether this holds of all members of an object. -/
def membersFit : List (String × Json) → Nat → Bool
  | [], _ => true
  | (_, value) :: members, depth => value.fits depth && membersFit members depth

end

end Json

namespace Record

open Yaml (Node)

variable {anchored : List (Nat × Node)}

/-! ### Scalars -/

/-- **A text that is written and read is text**, in whatever style it is written. -/
theorem scalarMeaning_formOf (text : List Char) :
    scalarMeaning none (Yaml.formOf text) text = .ok .text := by
  rw [scalarMeaning, Option.bind_none]
  by_cases plain : Yaml.formOf text = .plain
  · have style : Yaml.style text = .plain := by
      unfold Yaml.formOf at plain
      split at plain
      · assumption
      · cases plain
      · cases plain
      · cases plain
    have meaning := (Yaml.style_plain style).1
    rw [Yaml.isPlainText, Bool.and_eq_true] at meaning
    simpa [plain] using meaning.1
  · simp [plain]

theorem isWordSize_of_holds {width : Width} {n : Int} (holds : width.holds n = true) : isWordSize n = true := by
  have least : (width.bound : Int) ≤ Nat.pow 2 63 := by cases width <;> decide
  have greatest : (Nat.pow 2 63 : Int) ≤ Nat.pow 2 64 := by decide
  simp only [Width.holds, isWordSize, Bool.and_eq_true, decide_eq_true_eq] at holds ⊢
  omega

theorem isIntegerSize_of_isWordSize {n : Int} (size : isWordSize n = true) : Yaml.isIntegerSize n = true := by
  have least : (Nat.pow 2 63 : Int) ≤ Nat.pow 2 127 := by decide
  have greatest : (Nat.pow 2 64 : Int) ≤ Nat.pow 2 128 := by decide
  simp only [isWordSize, Yaml.isIntegerSize, Bool.and_eq_true, decide_eq_true_eq] at size ⊢
  omega

theorem scalarMeaning_ofInt {n : Int} (size : isWordSize n = true) :
    scalarMeaning none .plain (Digits.ofInt n) = .ok (.integer n) := by
  rw [scalarMeaning, Option.bind_none]
  simp [Yaml.meaning_ofInt (isIntegerSize_of_isWordSize size)]

/-! ### Decoding without aliases -/

@[simp] theorem liftM_ok {α : Type} (a : α) : (liftM (Except.ok a : Result α) : Following α) = pure a := rfl

@[simp] theorem under_pure {α : Type} (step : Step) (a : α) : under step (pure a : Following α) = pure a := rfl

theorem follow_ofText (text : String) : follow anchored (.ofText text) = pure (.ofText text) := rfl

theorem follow_ofJson (value : Json) : follow anchored (.ofJson value) = pure (.ofJson value) := by
  cases value with
  | bool b => cases b <;> rfl
  | _ => rfl

@[simp] theorem yamlText_ofText (wanted text : String) : yamlText wanted (.ofText text) = .ok text := by
  simp [Node.ofText, yamlText]

/-! ### Values -/

theorem yamlLeaf_ofText (text : List Char) : yamlLeaf none (Yaml.formOf text) text = .ok (.str (String.ofList text)) := by
  rw [yamlLeaf, scalarMeaning_formOf]
  rfl

/-- A key where anything is wanted. -/
def anyKey (anchored : List (Nat × Node)) (wanted : String) (key : Node) : Following String := do
  yamlText wanted (← follow anchored key)

/-- A value of any kind, as the part is that is followed to. -/
theorem yamlAny_follow (depth : Nat) (node : Node) :
    yamlAny anchored depth node = follow anchored node >>= fun node =>
      match node, depth with
      | .scalar properties form text, _ =>
        if (localName? properties.tag).isSome then fail (.invalidType .choice wantedAny)
        else yamlLeaf properties.tag form text
      | .sequence properties _, 0 =>
        if (localName? properties.tag).isSome then fail (.invalidType .choice wantedAny)
        else fail (.interrupted .tooDeep)
      | .sequence properties items, depth + 1 =>
        if (localName? properties.tag).isSome then fail (.invalidType .choice wantedAny)
        else .arr <$> decodeItems (yamlAny anchored depth) 0 items
      | .mapping properties _, 0 =>
        if (localName? properties.tag).isSome then fail (.invalidType .choice wantedAny)
        else fail (.interrupted .tooDeep)
      | .mapping properties [], _ + 1 =>
        if (localName? properties.tag).isSome then fail (.invalidType .choice wantedAny)
        else pure (.obj [])
      | .mapping properties (entry :: entries), depth + 1 =>
        if (localName? properties.tag).isSome then fail (.invalidType .choice wantedAny)
        else do
          let first ← decodeEntries (anyKey anchored "a string key") yamlLabel (yamlAny anchored depth) [] [entry]
          .obj <$> decodeEntries (anyKey anchored "a string") yamlLabel (yamlAny anchored depth) first entries
      | .void, _ => pure .null
      | node, _ => yamlMismatch node wantedAny := by
  delta yamlAny
  cases depth with
  | zero =>
    refine congrArg (follow anchored node >>= ·) (funext fun node => ?_)
    cases node <;> rfl
  | succ depth =>
    refine congrArg (follow anchored node >>= ·) (funext fun node => ?_)
    cases node with
    | mapping properties entries => cases entries <;> rfl
    | _ => rfl

theorem yamlAny_scalar (depth : Nat) (form : Yaml.Form) (text : List Char) :
    yamlAny anchored depth (.scalar {} form text) = liftM (yamlLeaf none form text) := by
  rw [yamlAny_follow]
  rfl

theorem yamlAny_sequence (depth : Nat) (items : List Node) :
    yamlAny anchored (depth + 1) (.sequence {} items) =
      .arr <$> decodeItems (yamlAny anchored depth) 0 items := by
  rw [yamlAny_follow]
  rfl

theorem yamlAny_emptyMapping (depth : Nat) :
    yamlAny anchored (depth + 1) (.mapping {} []) = pure (.obj []) := by
  rw [yamlAny_follow]
  rfl

theorem yamlAny_mapping (depth : Nat) (key value : Node) (entries : List (Node × Node)) :
    yamlAny anchored (depth + 1) (.mapping {} ((key, value) :: entries)) = (do
      let first ← decodeEntries (anyKey anchored "a string key") yamlLabel (yamlAny anchored depth) []
        [(key, value)]
      .obj <$> decodeEntries (anyKey anchored "a string") yamlLabel (yamlAny anchored depth) first
        entries) := by
  rw [yamlAny_follow]
  rfl

theorem anyKey_ofText (wanted key : String) : anyKey anchored wanted (.ofText key) = pure key := by
  simp [anyKey, follow_ofText]

mutual

/-- **A value, written and read, is the value with its objects in order.** -/
theorem yamlAny_ofJson : ∀ {value : Json}, value.isIntegral = true → ∀ {depth : Nat}, value.fits depth = true →
    yamlAny anchored depth (.ofJson value) = pure value.ordered
  | .null, _, depth, _ => yamlAny_scalar depth .plain ['n', 'u', 'l', 'l']
  | .bool true, _, depth, _ => yamlAny_scalar depth .plain ['t', 'r', 'u', 'e']
  | .bool false, _, depth, _ => yamlAny_scalar depth .plain ['f', 'a', 'l', 's', 'e']
  | .int n, integral, depth, _ => by
    rw [Json.isIntegral] at integral
    have leaf : yamlLeaf none .plain (Digits.ofInt n) = .ok (.int n) := by
      rw [yamlLeaf, scalarMeaning_ofInt integral]
      exact if_pos integral
    rw [Node.ofJson, yamlAny_scalar, leaf, Json.ordered, liftM_ok]
  | .float _, integral, _, _ => by simp [Json.isIntegral] at integral
  | .str text, _, depth, _ => by
    rw [Node.ofJson, Node.ofText, yamlAny_scalar, yamlLeaf_ofText, Json.ordered, String.ofList_toList, liftM_ok]
  | .arr items, integral, depth + 1, fits => by
    rw [Json.isIntegral] at integral
    rw [Json.fits] at fits
    rw [Node.ofJson, yamlAny_sequence, anyItems_ofItems integral fits 0, Json.ordered, map_pure]
  | .obj [], _, depth + 1, _ => yamlAny_emptyMapping depth
  | .obj ((key, value) :: members), integral, depth + 1, fits => by
    rw [Json.isIntegral] at integral
    rw [Json.fits] at fits
    rw [Json.membersIntegral, Bool.and_eq_true] at integral
    rw [Json.membersFit, Bool.and_eq_true] at fits
    have first : decodeEntries (anyKey anchored "a string key") yamlLabel (yamlAny anchored depth) []
        [(.ofText key, .ofJson value)] = pure (KeyMap.insertEntry key value.ordered []) := by
      rw [decodeEntries, anyKey_ofText, pure_bind, yamlAny_ofJson integral.1 fits.1, under_pure, pure_bind,
        decodeEntries]
    rw [Node.ofJson, Node.ofMembers, yamlAny_mapping, first, pure_bind,
      anyMembers_ofMembers integral.2 fits.2, map_pure, Json.ordered, Json.orderedMembers]

/-- The items of a list. -/
theorem anyItems_ofItems : ∀ {items : List Json}, Json.areIntegral items = true → ∀ {depth : Nat},
    Json.itemsFit items depth = true → ∀ index : Nat,
      decodeItems (yamlAny anchored depth) index (Node.ofItems items) = pure (Json.orderedItems items)
  | [], _, _, _, _ => rfl
  | item :: items, integral, depth, fits, index => by
    rw [Json.areIntegral, Bool.and_eq_true] at integral
    rw [Json.itemsFit, Bool.and_eq_true] at fits
    rw [Node.ofItems, decodeItems, yamlAny_ofJson integral.1 fits.1]
    simp [anyItems_ofItems integral.2 fits.2, Json.orderedItems]

/-- The members of an object, added to those before. -/
theorem anyMembers_ofMembers : ∀ {members : List (String × Json)}, Json.membersIntegral members = true →
    ∀ {depth : Nat}, Json.membersFit members depth = true → ∀ (wanted : String)
      (done : List (String × Json)), decodeEntries (anyKey anchored wanted) yamlLabel
        (yamlAny anchored depth) done (Node.ofMembers members) = pure (Json.orderedMembers done members)
  | [], _, _, _, _, _ => rfl
  | (key, value) :: members, integral, depth, fits, wanted, done => by
    rw [Json.membersIntegral, Bool.and_eq_true] at integral
    rw [Json.membersFit, Bool.and_eq_true] at fits
    rw [Node.ofMembers, decodeEntries, anyKey_ofText, pure_bind, yamlAny_ofJson integral.1 fits.1, under_pure,
      pure_bind, anyMembers_ofMembers integral.2 fits.2, Json.orderedMembers]

end

/-! ### Documents -/

/-- What a shape makes of the tree of a mapping it makes of the document. -/
theorem ofYaml_write {shape : Shape} {members : List (String × Json)} {value : Json}
    (whole : Json.membersExact members = true) (nonempty : members ≠ [])
    (decoded : ∀ anchored, shape.decode (yamlFormat anchored) ⟨.ofJson (.obj members), 0⟩ = pure value) :
    shape.ofYaml (Yaml.write (.obj members)) = .ok value := by
  rw [Shape.ofYaml, Yaml.Document.ofText_write whole nonempty, Shape.ofDocument]
  simp only [decoded]
  rfl

/-- **The document of an object, read as a value of any kind, is the object.** -/
theorem ofYaml_any {members : List (String × Json)} (integral : Json.membersIntegral members = true)
    (nonempty : members ≠ []) (fits : (Json.obj members).fits (deepest - 1) = true) :
    Shape.any.ofYaml (Yaml.write (.obj members)) = .ok (Json.obj members).ordered :=
  ofYaml_write (Json.membersExact_of_membersIntegral integral) nonempty fun _ =>
    yamlAny_ofJson (by rw [Json.isIntegral]; exact integral) fits

end Record

end ControllerSynthesis
