/-
# The tree of a document

From the tokens of a value the same tree is built wherever the value stands: the
part is put in the place that waits for it, and building goes on behind its
tokens. A list that is level with the key above it ends at the first token that is
none of its marks, and there the state is as if it had ended by itself.

So the document of a mapping, written and read, is the tree of that mapping.

Key definitions: `Yaml.Node.ofJson`, `Yaml.Builder.building`, `Yaml.Progress.runOn`.
Key theorems: `Yaml.Builder.run_behindMark`, `Yaml.Document.ofText_write`.
-/
import ControllerSynthesis.Proofs.Yaml.Tokens
import ControllerSynthesis.Yaml.Document

namespace ControllerSynthesis.Yaml

/-! ### The tree of a value -/

namespace Node

/-- The part that a text is. -/
def ofText (text : String) : Node :=
  .scalar {} (formOf text.toList) text.toList

mutual

/-- The part that a value is in its document. -/
def ofJson : Json → Node
  | .null => .scalar {} .plain ['n', 'u', 'l', 'l']
  | .bool true => .scalar {} .plain ['t', 'r', 'u', 'e']
  | .bool false => .scalar {} .plain ['f', 'a', 'l', 's', 'e']
  | .int n => .scalar {} .plain (Digits.ofInt n)
  | .float _ => .void
  | .str text => ofText text
  | .arr items => .sequence {} (ofItems items)
  | .obj members => .mapping {} (ofMembers members)

/-- The items of a list. -/
def ofItems : List Json → List Node
  | [] => []
  | item :: items => ofJson item :: ofItems items

/-- The entries of a mapping. -/
def ofMembers : List (String × Json) → List (Node × Node)
  | [] => []
  | (key, value) :: members => (ofText key, ofJson value) :: ofMembers members

end

end Node

/-- Goes on behind a token. -/
def Progress.runOn (tokens : List Token) : Progress → Document
  | .more s => s.run tokens
  | .whole root => ⟨root, Builder.endingAt false tokens⟩
  | .stuck why => ⟨.unread why, .interrupted why⟩

namespace Builder

/-- The state inside a document without a mark and without anchors. -/
def building (stack : List Frame) (wanted : Wanted) : Builder where
  stack := stack
  wanted := wanted
  base := .bareDocument
  handles := defaultHandles

variable {s next : Builder} {t : Token} {tokens : List Token} {stack : List Frame}

/-! ### Steps -/

theorem run_more (settled : s.settle t = .more s) (taken : s.take t = .more next) :
    s.run (t :: tokens) = next.run tokens := by
  rw [run, settled]
  simp only [taken]

theorem run_put {node : Node} (settled : s.settle t = .more s) (taken : s.take t = next.put node) :
    s.run (t :: tokens) = (next.put node).runOn tokens := by
  rw [run, settled]
  simp only [taken]
  cases same : next.put node with
  | more after => rfl
  | whole root => rfl
  | stuck why =>
    unfold put at same
    split at same <;> cases same

/-- A part is put in its place whatever was wanted. -/
theorem put_building (node : Node) (a b : Wanted) :
    (building stack a).put node = (building stack b).put node := by
  rcases stack with - | ⟨⟨properties, items⟩ | ⟨properties, entries, - | key⟩, slot⟩
  · rfl
  · rfl
  · rfl
  · rfl

/-- The tokens that begin a part. -/
def begins : Token → Bool
  | .scalar _ _ | .flowSequenceStart | .flowMappingStart | .blockSequenceStart | .blockMappingStart => true
  | _ => false

/-- Where a part is wanted, a token that begins one ends nothing. -/
theorem settle_begins (beginning : begins t = true) :
    (building stack (.part {})).settle t = .more (building stack (.part {})) := by
  have goesOn (slot : Slot) : slot.endsBefore t = false := by
    cases t <;> cases beginning <;> cases slot <;> rfl
  have kept : (building stack (.part {})).endPart t = .more (building stack (.part {})) := by
    simp [endPart, building, Marks.areNone, goesOn]
  rw [settle, kept]
  rfl

theorem take_begins (beginning : begins t = true) :
    (building stack (.part {})).take t = (building stack (.part {})).takePart {} t := by
  have noKey (slot : Slot) : slot.standsForKey t = false := by
    cases t <;> cases beginning <;> cases slot <;> rfl
  simp [take, building, noKey]

/-- Where an entry or the end is wanted in a block, a token ends nothing before it. -/
theorem settle_entry {frame : Frame} (inBlock : frame.slot ≠ .pairKey ∧ frame.slot ≠ .pairValue)
    (marks : frame.slot = .levelItem → t = .blockEntry) :
    (building (frame :: stack) .entry).settle t = .more (building (frame :: stack) .entry) := by
  have level : (building (frame :: stack) .entry).endLevel t = .more (building (frame :: stack) .entry) := by
    rw [endLevel, if_neg]
    rintro ⟨-, slot, other⟩
    exact other (marks slot)
  have pair : (building (frame :: stack) .entry).endPair = .more (building (frame :: stack) .entry) := by
    rw [endPair, if_neg]
    rintro ⟨-, slot | slot⟩
    · exact inBlock.1 slot
    · exact inBlock.2 slot
  have part : (building (frame :: stack) .entry).endPart t = .more (building (frame :: stack) .entry) := rfl
  have value : (building (frame :: stack) .entry).endValue t = .more (building (frame :: stack) .entry) := by
    simp [endValue, building]
  simp only [settle, part, Progress.andThen, level, value, pair]

/-! ### Parts -/

/-- The slot that is next takes a block. -/
def TakesBlock (stack : List Frame) : Prop :=
  (building stack (.part {})).slot.takesBlock = true

theorem run_scalar (form : Form) (text : List Char) :
    (building stack (.part {})).run (.scalar form text :: tokens) =
      ((building stack (.part {})).put (.scalar {} form text)).runOn tokens :=
  run_put (settle_begins rfl) (take_begins rfl)

/-- A value that is a word, a text or a pair of brackets. -/
theorem run_leaf {value : Json} (whole : value.isExact = true) :
    (building stack (.part {})).run (leafTokens value ++ tokens) =
      ((building stack (.part {})).put (match value with
        | .arr _ => .sequence {} []
        | .obj _ => .mapping {} []
        | leaf => Node.ofJson leaf)).runOn tokens := by
  cases value with
  | null => exact run_scalar _ _
  | bool b => cases b <;> exact run_scalar _ _
  | int n => exact run_scalar _ _
  | float x => simp [Json.isExact] at whole
  | str text => exact run_scalar _ _
  | arr items =>
    have opening : (building stack (.part {})).run (.flowSequenceStart :: .flowSequenceEnd :: tokens) =
        (building (⟨.sequence {} [], .flowItem⟩ :: stack) (.part {})).run (.flowSequenceEnd :: tokens) :=
      run_more (settle_begins rfl) (take_begins rfl)
    exact opening.trans (run_put rfl rfl)
  | obj members =>
    have opening : (building stack (.part {})).run (.flowMappingStart :: .flowMappingEnd :: tokens) =
        (building (⟨.mapping {} [] none, .flowEntry⟩ :: stack) (.part {})).run (.flowMappingEnd :: tokens) :=
      run_more (settle_begins rfl) (take_begins rfl)
    exact opening.trans (run_put rfl rfl)

/-- A key, from its mark up to its value. -/
theorem run_key {slot : Slot} (inBlock : slot = .blockKey ∨ slot = .blockValue) {done : List (Node × Node)}
    (key : String) :
    (building (⟨.mapping {} done none, slot⟩ :: stack) .entry).run
        (.key :: scalarToken key.toList :: .value :: tokens) =
      (building (⟨.mapping {} done (some (.ofText key)), .blockValue⟩ :: stack) (.part {})).run tokens := by
  have mark : (building (⟨.mapping {} done none, slot⟩ :: stack) .entry).run
        (.key :: scalarToken key.toList :: .value :: tokens) =
      (building (⟨.mapping {} done none, .blockKey⟩ :: stack) (.part {})).run
        (scalarToken key.toList :: .value :: tokens) := by
    rcases inBlock with rfl | rfl
    · exact run_more (settle_entry ⟨nofun, nofun⟩ nofun) rfl
    · exact run_more (settle_entry ⟨nofun, nofun⟩ nofun) rfl
  have text : (building (⟨.mapping {} done none, .blockKey⟩ :: stack) (.part {})).run
        (scalarToken key.toList :: .value :: tokens) =
      (building (⟨.mapping {} done (some (.ofText key)), .blockKey⟩ :: stack) .colon).run
        (.value :: tokens) := run_more (settle_begins rfl) rfl
  exact mark.trans (text.trans (run_more rfl rfl))

theorem run_mappingStart (block : TakesBlock stack) :
    (building stack (.part {})).run (.blockMappingStart :: tokens) =
      (building (⟨.mapping {} [] none, .blockKey⟩ :: stack) .entry).run tokens := by
  refine run_more (settle_begins rfl) ((take_begins rfl).trans ?_)
  rw [TakesBlock] at block
  simp only [takePart, block]
  rfl

/-- A list that is level with its key is over at a token that is not the mark of an
item. -/
theorem run_endLevel {items : List Node} {done : List (Node × Node)} {key : Node} (noItem : t ≠ .blockEntry) :
    (building (⟨.sequence {} items, .levelItem⟩ :: ⟨.mapping {} done (some key), .blockValue⟩ :: stack)
        .entry).run (t :: tokens) =
      (building (⟨.mapping {} ((key, .sequence {} items.reverse) :: done) none, .blockValue⟩ :: stack)
        .entry).run (t :: tokens) := by
  have ended : (building (⟨.sequence {} items, .levelItem⟩ ::
        ⟨.mapping {} done (some key), .blockValue⟩ :: stack) .entry).endLevel t =
      .more (building (⟨.mapping {} ((key, .sequence {} items.reverse) :: done) none, .blockValue⟩ :: stack)
        .entry) :=
    if_pos (And.intro rfl (And.intro rfl noItem))
  have after : (building (⟨.mapping {} ((key, .sequence {} items.reverse) :: done) none, .blockValue⟩ ::
        stack) .entry).settle t =
      .more (building (⟨.mapping {} ((key, .sequence {} items.reverse) :: done) none, .blockValue⟩ :: stack)
        .entry) := settle_entry ⟨nofun, nofun⟩ nofun
  have kept : (building (⟨.mapping {} ((key, .sequence {} items.reverse) :: done) none, .blockValue⟩ ::
        stack) .entry).endLevel t =
      .more (building (⟨.mapping {} ((key, .sequence {} items.reverse) :: done) none, .blockValue⟩ :: stack)
        .entry) := if_neg fun level => nomatch level.2.1
  have part (s : Builder) (entry : s.wanted = .entry) : s.endPart t = .more s := by
    rw [endPart, entry]
  have settled : (building (⟨.sequence {} items, .levelItem⟩ ::
        ⟨.mapping {} done (some key), .blockValue⟩ :: stack) .entry).settle t =
      (building (⟨.mapping {} ((key, .sequence {} items.reverse) :: done) none, .blockValue⟩ :: stack)
        .entry).settle t := by
    rw [settle, settle, part _ rfl, part _ rfl, Progress.andThen, Progress.andThen, ended, kept]
  rw [run, run, settled, after]

mutual

/-- **The tokens of a value put its tree in the place that waits for it.** -/
theorem run_behindMark : ∀ {value : Json}, value.isExact = true → ∀ {stack : List Frame}
    {tokens : List Token}, TakesBlock stack →
    (building stack (.part {})).run (behindMarkTokens value ++ tokens) =
      ((building stack (.part {})).put (.ofJson value)).runOn tokens
  | .arr [], _, _, _, _ => run_leaf (rfl : (Json.arr []).isExact = true)
  | .arr (item :: items), whole, stack, tokens, block => by
    rw [Json.isExact] at whole
    have opening : (building stack (.part {})).run (.blockSequenceStart ::
          (itemsTokens (item :: items) ++ .blockEnd :: tokens)) =
        (building (⟨.sequence {} [], .blockItem⟩ :: stack) .entry).run
          (itemsTokens (item :: items) ++ .blockEnd :: tokens) := by
      refine run_more (settle_begins rfl) ((take_begins rfl).trans ?_)
      rw [TakesBlock] at block
      simp only [takePart, block]
      rfl
    have ended (items : List Node) : (building (⟨.sequence {} items, .blockItem⟩ :: stack) .entry).run
          (.blockEnd :: tokens) =
        ((building stack (.part {})).put (.sequence {} items.reverse)).runOn tokens :=
      run_put (settle_entry ⟨nofun, nofun⟩ nofun) (put_building _ .entry _)
    have written : behindMarkTokens (.arr (item :: items)) ++ tokens =
        .blockSequenceStart :: (itemsTokens (item :: items) ++ .blockEnd :: tokens) := by
      simp [behindMarkTokens]
    rw [written, opening, run_items whole (.inl rfl), ended]
    simp [Node.ofJson]
  | .obj [], _, _, _, _ => run_leaf (rfl : (Json.obj []).isExact = true)
  | .obj (member :: members), whole, stack, tokens, block => by
    rw [Json.isExact] at whole
    have written : behindMarkTokens (.obj (member :: members)) ++ tokens =
        .blockMappingStart :: (entriesTokens (member :: members) ++ .blockEnd :: tokens) := by
      simp [behindMarkTokens]
    rw [written, run_mappingStart block, run_entries whole (.inl rfl)]
    rfl
  | .null, whole, _, _, _ => run_leaf whole
  | .bool _, whole, _, _, _ => run_leaf whole
  | .int _, whole, _, _, _ => run_leaf whole
  | .float _, whole, _, _, _ => run_leaf whole
  | .str _, whole, _, _, _ => run_leaf whole

/-- **So do those behind a colon**, up to a token that is not the mark of an item. -/
theorem run_behindKey : ∀ {value : Json}, value.isExact = true → ∀ {stack : List Frame} {key : Node}
    {done : List (Node × Node)} {t : Token} {tokens : List Token}, t ≠ .blockEntry →
    (building (⟨.mapping {} done (some key), .blockValue⟩ :: stack) (.part {})).run
        (behindKeyTokens value ++ t :: tokens) =
      (building (⟨.mapping {} ((key, .ofJson value) :: done) none, .blockValue⟩ :: stack) .entry).run
        (t :: tokens)
  | .arr [], _, _, _, _, _, _, _ => run_leaf (rfl : (Json.arr []).isExact = true)
  | .arr (item :: items), whole, stack, key, done, t, tokens, noItem => by
    rw [Json.isExact, Json.areExact, Bool.and_eq_true] at whole
    have opening : (building (⟨.mapping {} done (some key), .blockValue⟩ :: stack) (.part {})).run
          (.blockEntry :: (behindMarkTokens item ++ (itemsTokens items ++ t :: tokens))) =
        (building (⟨.sequence {} [], .levelItem⟩ :: ⟨.mapping {} done (some key), .blockValue⟩ :: stack)
          (.part {})).run (behindMarkTokens item ++ (itemsTokens items ++ t :: tokens)) :=
      run_more rfl rfl
    have written : behindKeyTokens (.arr (item :: items)) ++ t :: tokens =
        .blockEntry :: (behindMarkTokens item ++ (itemsTokens items ++ t :: tokens)) := by
      simp [behindKeyTokens, itemsTokens]
    rw [written, opening]
    refine (run_behindMark whole.1 (by rfl)).trans ((run_items whole.2 (.inr rfl)).trans ?_)
    rw [run_endLevel noItem]
    simp [Node.ofJson, Node.ofItems]
  | .obj [], _, _, _, _, _, _, _ => run_leaf (rfl : (Json.obj []).isExact = true)
  | .obj (member :: members), whole, stack, key, done, t, tokens, _ => by
    rw [Json.isExact] at whole
    have written : behindKeyTokens (.obj (member :: members)) ++ t :: tokens =
        .blockMappingStart :: (entriesTokens (member :: members) ++ .blockEnd :: t :: tokens) := by
      simp [behindKeyTokens]
    rw [written]
    refine (run_mappingStart (by rfl)).trans ?_
    rw [run_entries whole (.inl rfl)]
    rfl
  | .null, whole, _, _, _, _, _, _ => run_leaf whole
  | .bool _, whole, _, _, _, _, _, _ => run_leaf whole
  | .int _, whole, _, _, _, _, _, _ => run_leaf whole
  | .float _, whole, _, _, _, _, _, _ => run_leaf whole
  | .str _, whole, _, _, _, _, _, _ => run_leaf whole

/-- **The tokens of items add the items to an open list.** -/
theorem run_items : ∀ {items : List Json}, Json.areExact items = true → ∀ {stack : List Frame}
    {done : List Node} {slot : Slot} {tokens : List Token}, (slot = .blockItem ∨ slot = .levelItem) →
    (building (⟨.sequence {} done, slot⟩ :: stack) .entry).run (itemsTokens items ++ tokens) =
      (building (⟨.sequence {} ((Node.ofItems items).reverse ++ done), slot⟩ :: stack) .entry).run tokens
  | [], _, _, _, _, _, _ => rfl
  | item :: items, whole, stack, done, slot, tokens, place => by
    rw [Json.areExact, Bool.and_eq_true] at whole
    have mark : (building (⟨.sequence {} done, slot⟩ :: stack) .entry).run
          (.blockEntry :: (behindMarkTokens item ++ (itemsTokens items ++ tokens))) =
        (building (⟨.sequence {} done, slot⟩ :: stack) (.part {})).run
          (behindMarkTokens item ++ (itemsTokens items ++ tokens)) := by
      rcases place with rfl | rfl
      · exact run_more (settle_entry ⟨nofun, nofun⟩ fun _ => rfl) rfl
      · exact run_more (settle_entry ⟨nofun, nofun⟩ fun _ => rfl) rfl
    have block : TakesBlock (⟨.sequence {} done, slot⟩ :: stack) := by
      rcases place with rfl | rfl <;> rfl
    have written : itemsTokens (item :: items) ++ tokens =
        .blockEntry :: (behindMarkTokens item ++ (itemsTokens items ++ tokens)) := by
      simp [itemsTokens]
    rw [written, mark, run_behindMark whole.1 block]
    refine (run_items whole.2 place).trans ?_
    simp [Node.ofItems]

/-- **The tokens of entries end an open mapping with these entries.** -/
theorem run_entries : ∀ {members : List (String × Json)}, Json.membersExact members = true →
    ∀ {stack : List Frame} {done : List (Node × Node)} {slot : Slot} {tokens : List Token},
    (slot = .blockKey ∨ slot = .blockValue) →
    (building (⟨.mapping {} done none, slot⟩ :: stack) .entry).run
        (entriesTokens members ++ .blockEnd :: tokens) =
      ((building stack (.part {})).put (.mapping {} (done.reverse ++ Node.ofMembers members))).runOn tokens
  | [], _, stack, done, slot, tokens, place => by
    have inBlock : slot ≠ .pairKey ∧ slot ≠ .pairValue ∧ slot ≠ .levelItem := by
      rcases place with rfl | rfl <;> decide
    have taken : (building (⟨.mapping {} done none, slot⟩ :: stack) .entry).take .blockEnd =
        (building stack (.part {})).put (.mapping {} done.reverse) := by
      rcases place with rfl | rfl <;> exact put_building _ .entry _
    rw [entriesTokens, Node.ofMembers, List.append_nil]
    exact run_put (settle_entry ⟨inBlock.1, inBlock.2.1⟩ fun level => absurd level inBlock.2.2) taken
  | (key, value) :: members, whole, stack, done, slot, tokens, place => by
    rw [Json.membersExact, Bool.and_eq_true] at whole
    obtain ⟨t, rest, same, noItem⟩ : ∃ t rest, entriesTokens members ++ .blockEnd :: tokens = t :: rest ∧
        t ≠ .blockEntry := by
      rcases members with - | ⟨⟨second, further⟩, members⟩
      · exact ⟨_, _, rfl, nofun⟩
      · exact ⟨_, _, rfl, nofun⟩
    have written : entriesTokens ((key, value) :: members) ++ .blockEnd :: tokens =
        .key :: scalarToken key.toList :: .value ::
          ((if isSimpleKey key then behindKeyTokens value else behindMarkTokens value) ++ t :: rest) := by
      simp [entriesTokens, ← same]
    have entry : (building (⟨.mapping {} done none, slot⟩ :: stack) .entry).run
          (entriesTokens ((key, value) :: members) ++ .blockEnd :: tokens) =
        (building (⟨.mapping {} ((.ofText key, .ofJson value) :: done) none, .blockValue⟩ :: stack)
          .entry).run (t :: rest) := by
      rw [written, run_key place]
      split
      · exact run_behindKey whole.1 noItem
      · exact run_behindMark whole.1 rfl
    rw [entry, ← same, run_entries whole.2 (.inr rfl)]
    simp [Node.ofMembers]

end

end Builder

/-- The document of a text that is scanned to the tokens of a mapping. -/
theorem Document.ofText_of_scan {text : List Char} {tokens : List Token} (shown : Shown text)
    (scanned : scan text true = ⟨.blockMappingStart :: tokens, true⟩) :
    Document.ofText (String.ofList text) =
      (Builder.building [⟨.mapping {} [] none, .blockKey⟩] .entry).run tokens := by
  rw [Document.ofText, String.toList_ofList, readablePart_of_shown shown]
  simp only [Bool.not_true, Bool.and_false, Bool.false_eq_true, if_false]
  rw [scanned]
  have block : Builder.TakesBlock [] := rfl
  exact Builder.run_mappingStart block

/-- **The document of a mapping, written and read, is the tree of the mapping.** -/
theorem Document.ofText_write {members : List (String × Json)}
    (whole : Json.membersExact members = true) (nonempty : members ≠ []) :
    Document.ofText (write (.obj members)) = ⟨.ofJson (.obj members), .clean⟩ := by
  have shown : Shown (writeChars (.obj members)) := by
    obtain ⟨member, members, rfl⟩ := List.exists_cons_of_ne_nil nonempty
    exact shown_writeEntries whole 0
  have tokens : documentTokens members =
      .blockMappingStart :: (entriesTokens members ++ .blockEnd :: [.streamEnd]) := by
    simp [documentTokens]
  have scanned := scan_writeChars whole nonempty
  rw [tokens] at scanned
  rw [write, Document.ofText_of_scan shown scanned, Builder.run_entries whole (.inl rfl)]
  rfl

end ControllerSynthesis.Yaml
