/-
# The limit on following aliases

How often aliases may be followed decides nothing but whether this is often enough: with
more to spare the outcome is the same, and as much more is left over. Only a document that
follows them too often fails for that reason, and may have another outcome when it is
allowed to go on.

This holds of every step of decoding, and so of decoding by any shape.

Key definitions: `Record.Failure.IsRepetition`, `Record.Steady`, `Record.Format.IsSteady`.
Key theorems: `Record.Steady.bind`, `Record.steady_follow`,
`Record.Format.IsSteady.steady_decode`, `Record.isSteady_yamlFormat`.
-/
import ControllerSynthesis.Proofs.Record.AnyValue

namespace ControllerSynthesis.Record

open Yaml (Node)

variable {α β ν : Type}

/-- Whether a failure says that aliases have been followed too often. -/
def Failure.IsRepetition (failure : Failure) : Prop :=
  failure.cause = .interrupted .tooManyAliases

/-- Whether decoding with more to spare has the same outcome and leaves as much more over,
unless it follows aliases too often. -/
def Steady (decoding : Following α) : Prop :=
  ∀ left more : Nat, (∃ failure, decoding.run left = .error failure ∧ failure.IsRepetition) ∨
    decoding.run (left + more) = (decoding.run left).map fun (a, rest) => (a, rest + more)

/-! ### Steps of decoding -/

theorem steady_pure (a : α) : Steady (pure a) :=
  fun _ _ => .inr rfl

theorem steady_lift (outcome : Result α) : Steady (liftM outcome) := by
  intro left more
  right
  cases outcome with
  | ok a => rfl
  | error failure => rfl

theorem steady_fail (cause : Cause) : Steady (fail cause : Following α) :=
  fun _ _ => .inr rfl

theorem Steady.bind {first : Following α} {next : α → Following β} (steady : Steady first)
    (later : ∀ a, Steady (next a)) : Steady (first >>= next) := by
  intro left more
  have joined (n : Nat) : (first >>= next).run n = first.run n >>= fun (a, rest) => (next a).run rest := rfl
  rw [joined, joined]
  rcases steady left more with ⟨failure, failed, repetition⟩ | same
  · left
    exact ⟨failure, by rw [failed]; rfl, repetition⟩
  · rw [same]
    cases outcome : first.run left with
    | error failure => exact .inr rfl
    | ok result =>
      obtain ⟨a, rest⟩ := result
      exact later a rest more

theorem Steady.map {decoding : Following α} (steady : Steady decoding) (f : α → β) : Steady (f <$> decoding) := by
  rw [map_eq_pure_bind]
  exact steady.bind fun a => steady_pure (f a)

theorem run_under (step : Step) (decoding : Following α) (left : Nat) :
    (under step decoding).run left = (decoding.run left).mapError (·.under step) := by
  show tryCatchThe Failure (decoding.run left) (fun failure => throwThe Failure (failure.under step)) = _
  cases decoding.run left with
  | ok result => rfl
  | error failure => rfl

theorem Failure.IsRepetition.under {failure : Failure} (repetition : failure.IsRepetition) (step : Step) :
    (failure.under step).IsRepetition := by
  unfold Failure.under
  split
  · exact repetition
  · exact repetition

theorem Steady.under {decoding : Following α} (steady : Steady decoding) (step : Step) :
    Steady (under step decoding) := by
  intro left more
  rw [run_under, run_under]
  rcases steady left more with ⟨failure, failed, repetition⟩ | same
  · left
    exact ⟨failure.under step, by rw [failed]; rfl, repetition.under step⟩
  · right
    rw [same]
    cases decoding.run left with
    | ok result => rfl
    | error failure => rfl

/-- What is decoded with more to spare is the same, unless aliases are followed too
often. -/
theorem Steady.run' {decoding : Following α} (steady : Steady decoding) {left other : Nat}
    (less : left ≤ other) :
    (∃ failure, decoding.run' left = .error failure ∧ failure.IsRepetition) ∨
      decoding.run' other = decoding.run' left := by
  obtain ⟨more, rfl⟩ := Nat.le.dest less
  have first (n : Nat) : decoding.run' n = (decoding.run n).map (·.1) := rfl
  rw [first, first]
  rcases steady left more with ⟨failure, failed, repetition⟩ | same
  · left
    exact ⟨failure, by rw [failed]; rfl, repetition⟩
  · right
    rw [same]
    cases decoding.run left with
    | error failure => rfl
    | ok result => rfl

/-- **An alias that is followed takes one off**, and any other part nothing. -/
theorem steady_follow (anchored : List (Nat × Node)) : ∀ node : Node, Steady (follow anchored node)
  | .alias number => by
    intro left more
    cases left with
    | zero => exact .inl ⟨_, rfl, rfl⟩
    | succ left =>
      right
      rw [Nat.succ_add]
      rfl
  | .scalar _ _ _ | .sequence _ _ | .mapping _ _ | .void | .unread _ => steady_pure _

/-! ### Lists and maps -/

theorem steady_decodeItems {decode : ν → Following Json} (steady : ∀ part, Steady (decode part)) :
    ∀ (index : Nat) (items : List ν), Steady (decodeItems decode index items)
  | _, [] => steady_pure _
  | index, item :: items => by
    rw [decodeItems]
    apply ((steady item).under _).bind
    intro value
    exact (steady_decodeItems steady (index + 1) items).bind fun _ => steady_pure _

theorem steady_decodeEntries {name : ν → Following String} {label : ν → Option String} {decode : ν → Following Json}
    (steadyName : ∀ part, Steady (name part)) (steady : ∀ part, Steady (decode part)) :
    ∀ (done : List (String × Json)) (entries : List (ν × ν)), Steady (decodeEntries name label decode done entries)
  | _, [] => steady_pure _
  | done, (key, part) :: entries => by
    rw [decodeEntries]
    apply (steadyName key).bind
    intro text
    apply ((steady part).under _).bind
    intro value
    exact steady_decodeEntries steadyName steady _ entries

/-! ### Formats -/

/-- Whether every step of a format is steady. -/
structure Format.IsSteady (format : Format Following ν) : Prop where
  text (wanted : String) (part : ν) : Steady (format.text wanted part)
  flag (part : ν) : Steady (format.flag part)
  integer (width : Width) (part : ν) : Steady (format.integer width part)
  quantity (part : ν) : Steady (format.quantity part)
  timestamp (part : ν) : Steady (format.timestamp part)
  choice (names : List String) (part : ν) : Steady (format.choice names part)
  any (part : ν) : Steady (format.any part)
  present (part : ν) : Steady (format.present? part)
  items (part : ν) : Steady (format.items part)
  entries (part : ν) : Steady (format.entries part)
  contents (name : String) (strict : Bool) (part : ν) : Steady (format.contents name strict part)
  pass (part : ν) : Steady (format.pass part)

namespace Format.IsSteady

variable {format : Format Following ν}

theorem steady_visitEntries (steady : format.IsSteady) {strict : Bool}
    {decoder : String → Option (ν → Following (Option Json))}
    (decodes : ∀ name decode, decoder name = some decode → ∀ part, Steady (decode part)) :
    ∀ (done : List (String × Option Json)) (entries : List (ν × ν)),
      Steady (visitEntries format strict decoder done entries)
  | _, [] => steady_pure _
  | done, (key, part) :: entries => by
    rw [visitEntries]
    apply (steady.text _ key).bind
    intro name
    split
    · apply ((steady.pass part).under _).bind
      intro _
      exact steady_visitEntries steady decodes done entries
    · rename_i decode found
      split
      · exact steady_fail _
      · apply ((decodes name decode found part).under _).bind
        intro value
        exact steady_visitEntries steady decodes _ entries

theorem steady_fill (found : List (String × Option Json)) : ∀ fields : Fields, Steady (fields.fill found)
  | .nil => steady_pure _
  | .cons key presence shape rest => by
    rw [Fields.fill]
    split
    · exact steady_fail _
    · exact (steady_fill found rest).bind fun _ => steady_pure _

theorem steady_decodeField (steady : format.IsSteady) {decode : ν → Following Json}
    (decodes : ∀ part, Steady (decode part)) (presence : Presence) (part : ν) :
    Steady (decodeField format presence decode part) := by
  -- All rules under which a value may be left out decode alike.
  have optional : Steady (decodeField format .nullable decode part) := by
    unfold decodeField
    apply (steady.present part).bind
    intro there
    cases there with
    | none => exact steady_pure _
    | some part => exact (decodes part).map some
  cases presence with
  | required => exact (decodes part).map some
  | defaulted fallback => exact (decodes part).map some
  | nullable => exact optional
  | omitted => exact optional
  | lenient fallback => exact optional

mutual

/-- **Decoding by a shape is steady** if the format is. -/
theorem steady_decode (steady : format.IsSteady) : ∀ (shape : Shape) (part : ν), Steady (shape.decode format part)
  | .text, part => (steady.text _ part).map _
  | .flag, part => (steady.flag part).map _
  | .integer width, part => (steady.integer width part).map _
  | .quantity, part => (steady.quantity part).map _
  | .timestamp, part => (steady.timestamp part).map _
  | .any, part => steady.any part
  | .choice names, part => (steady.choice names part).map _
  | .list item, part => by
    rw [Shape.decode]
    apply (steady.items part).bind
    intro items
    exact (steady_decodeItems (steady_decode steady item) 0 items).bind fun _ => steady_pure _
  | .map shape, part => by
    rw [Shape.decode]
    apply (steady.entries part).bind
    intro entries
    exact (steady_decodeEntries (steady.text _) (steady_decode steady shape) [] entries).bind fun _ => steady_pure _
  | .record name strict fields, part => by
    rw [Shape.decode]
    apply (steady.contents name strict part).bind
    intro contents
    cases contents with
    | entries entries =>
      apply (steady_visitEntries steady (steady_decoder steady fields) [] entries).bind
      intro found
      exact (steady_fill found fields).bind fun _ => steady_pure _
    | places parts =>
      apply (steady_decodePlaces steady _ fields 0 parts).bind
      rintro ⟨members, left⟩
      show Steady (if left.isEmpty then pure (Json.obj members) else fail _)
      split
      · exact steady_pure _
      · exact steady_fail _

theorem steady_decoder (steady : format.IsSteady) : ∀ (fields : Fields) (name : String)
    (decode : ν → Following (Option Json)), Fields.decoder format fields name = some decode →
      ∀ part, Steady (decode part)
  | .nil, _, _, found => nomatch found
  | .cons key presence shape rest, name, decode, found => by
    change (if name = key then some (decodeField format presence (Shape.decode format shape))
      else Fields.decoder format rest name) = some decode at found
    by_cases own : name = key
    · rw [if_pos own] at found
      cases found
      exact steady.steady_decodeField (steady_decode steady shape) presence
    · rw [if_neg own] at found
      exact steady_decoder steady rest name decode found

theorem steady_decodePlaces (steady : format.IsSteady) (wanted : String) : ∀ (fields : Fields) (index : Nat)
    (parts : List ν), Steady (Fields.decodePlaces format wanted fields index parts)
  | .nil, _, _ => steady_pure _
  | .cons key presence shape rest, index, parts => by
    have others (given : Option Json × List ν) : Steady (do
        let (others, left) ← Fields.decodePlaces format wanted rest (index + 1) given.2
        return (presence.kept key given.1 ++ others, left) : Following (List (String × Json) × List ν)) :=
      (steady_decodePlaces steady wanted rest (index + 1) given.2).bind fun _ => steady_pure _
    rw [Fields.decodePlaces]
    cases parts with
    | nil =>
      cases presence.endsList with
      | some value => exact others (value, [])
      | none => exact (steady_fail _).bind others
    | cons part parts =>
      have own := steady.steady_decodeField (steady_decode steady shape) presence part
      exact own.bind fun value => others (value, parts)

end

end Format.IsSteady

/-! ### YAML -/

/-- A part with a local tag is refused as a value of any kind. -/
theorem steady_untagged (tag : Option (List UInt8)) {decoding : Following Json} (steady : Steady decoding) :
    Steady (if (localName? tag).isSome then fail (.invalidType .choice wantedAny) else decoding) := by
  split
  · exact steady_fail _
  · exact steady

theorem steady_yamlAny (anchored : List (Nat × Node)) : ∀ (depth : Nat) (node : Node),
    Steady (yamlAny anchored depth node) := by
  have name (wanted : String) (key : Node) : Steady (anyKey anchored wanted key) :=
    (steady_follow anchored key).bind fun _ => steady_lift _
  intro depth
  induction depth with
  | zero =>
    intro node
    rw [yamlAny_follow]
    apply (steady_follow anchored node).bind
    intro node
    match node with
    | .scalar properties form text => exact steady_untagged properties.tag (steady_lift _)
    | .sequence properties items => exact steady_untagged properties.tag (steady_fail _)
    | .mapping properties entries => exact steady_untagged properties.tag (steady_fail _)
    | .alias number => exact steady_lift _
    | .void => exact steady_pure _
    | .unread why => exact steady_lift _
  | succ depth ih =>
    intro node
    rw [yamlAny_follow]
    apply (steady_follow anchored node).bind
    intro node
    match node with
    | .scalar properties form text => exact steady_untagged properties.tag (steady_lift _)
    | .sequence properties items => exact steady_untagged properties.tag ((steady_decodeItems ih 0 items).map _)
    | .mapping properties entries =>
      cases entries with
      | nil => exact steady_untagged properties.tag (steady_pure _)
      | cons entry entries =>
        apply steady_untagged properties.tag
        apply (steady_decodeEntries (name "a string key") ih [] [entry]).bind
        intro first
        exact (steady_decodeEntries (name "a string") ih first entries).map _
    | .alias number => exact steady_lift _
    | .void => exact steady_pure _
    | .unread why => exact steady_lift _

/-- **Reading a YAML document is steady.** -/
theorem isSteady_yamlFormat (anchored : List (Nat × Node)) : (yamlFormat anchored).IsSteady where
  text wanted part := (steady_follow anchored part.node).bind fun _ => steady_lift _
  flag part := (steady_follow anchored part.node).bind fun _ => steady_lift _
  integer width part := (steady_follow anchored part.node).bind fun _ => steady_lift _
  quantity part := (steady_follow anchored part.node).bind fun _ => steady_lift _
  timestamp part := (steady_follow anchored part.node).bind fun _ => (steady_lift _).bind fun _ => steady_lift _
  choice names part := (steady_follow anchored part.node).bind fun _ => steady_lift _
  any part := steady_yamlAny anchored _ part.node
  present part := by
    apply (steady_follow anchored part.node).bind
    intro node
    apply (steady_lift (yamlAbsent node)).bind
    intro absent
    cases absent with
    | true => exact steady_pure _
    | false => exact steady_pure _
  items part := (steady_follow anchored part.node).bind fun _ => (steady_lift _).bind fun _ => steady_pure _
  entries part := (steady_follow anchored part.node).bind fun _ => (steady_lift _).bind fun _ => steady_pure _
  contents name strict part :=
    (steady_follow anchored part.node).bind fun _ => (steady_lift _).bind fun _ => steady_pure _
  pass part := steady_lift _

end ControllerSynthesis.Record
