/-
# The fault that a comparison reports

A comparison of texts can be wrong in three places: the text of the operator, the version
and the threshold. They are looked at in this order, and the first that is wrong is
reported with its text as it was given. A gate reports nothing: it is closed for a
comparison and for its complement when a text is no version, and exactly one of the two
is open when both are.

Key definitions: `Comparison.symbols`.
Key theorems: `Comparison.parse?_eq_some_iff`, `Comparison.parse?_eq_none_iff`,
`Version.compareTexts_fails_first`.
-/
import ControllerSynthesis.Proofs.Text.Blank
import ControllerSynthesis.Proofs.Version.Precedence

namespace ControllerSynthesis

/-! ### The texts of the comparisons -/

namespace Comparison

/-- The texts that stand for a comparison. -/
def symbols : Comparison → List String
  | equal => ["=", "=="]
  | notEqual => ["!="]
  | greater => [">"]
  | greaterOrEqual => [">="]
  | less => ["<"]
  | lessOrEqual => ["<="]

/-- There are seven of them. -/
theorem mem_symbols_iff {symbol : String} : (∃ comparison : Comparison, symbol ∈ comparison.symbols) ↔
    symbol ∈ ["=", "==", "!=", ">", ">=", "<", "<="] := by
  constructor
  · rintro ⟨comparison, own⟩
    cases comparison <;> simp only [symbols, List.mem_cons, List.not_mem_nil, or_false] at own ⊢ <;> tauto
  · intro mem
    simp only [List.mem_cons, List.not_mem_nil, or_false] at mem
    rcases mem with rfl | rfl | rfl | rfl | rfl | rfl | rfl
    · exact ⟨equal, by decide⟩
    · exact ⟨equal, by decide⟩
    · exact ⟨notEqual, by decide⟩
    · exact ⟨greater, by decide⟩
    · exact ⟨greaterOrEqual, by decide⟩
    · exact ⟨less, by decide⟩
    · exact ⟨lessOrEqual, by decide⟩

/-- A text names the comparison that one of its symbols stands for. -/
theorem parse?_eq_some_iff {text : String} {comparison : Comparison} :
    parse? text = some comparison ↔ ∃ symbol ∈ comparison.symbols, Text.IsTrimmed text.toList symbol.toList := by
  simp only [Text.isTrimmed_iff]
  unfold parse?
  generalize Text.trim text.toList = body
  constructor
  · intro named
    split at named <;> cases named <;> simp [symbols]
  · rintro ⟨symbol, own, rfl⟩
    cases comparison <;> simp only [symbols, List.mem_cons, List.not_mem_nil, or_false] at own
    case equal => rcases own with rfl | rfl <;> rfl
    all_goals
      subst own
      rfl

/-- All other texts name none. -/
theorem parse?_eq_none_iff {text : String} : parse? text = none ↔
    ∀ symbol ∈ ["=", "==", "!=", ">", ">=", "<", "<="], ¬ Text.IsTrimmed text.toList symbol.toList := by
  constructor
  · intro unnamed symbol mem trimmed
    obtain ⟨comparison, own⟩ := mem_symbols_iff.mpr mem
    rw [parse?_eq_some_iff.mpr ⟨symbol, own, trimmed⟩] at unnamed
    cases unnamed
  · intro none
    apply Option.eq_none_iff_forall_ne_some.mpr
    intro comparison named
    obtain ⟨symbol, own, trimmed⟩ := parse?_eq_some_iff.mp named
    exact none symbol (mem_symbols_iff.mp ⟨comparison, own⟩) trimmed

/-- Of a comparison and its complement exactly one holds, whatever the order is. -/
theorem admits_complement (comparison : Comparison) (order : Ordering) :
    comparison.complement.admits order = !comparison.admits order := by
  cases comparison <;> cases order <;> rfl

end Comparison

namespace Version

variable {version threshold operator : String} {comparison : Comparison} {fault : Fault} {v t : Version}

/-! ### Texts that are no versions -/

theorem ofText_of_parse (read : parse version = .ok v) : ofText version = .ok v := by
  rw [ofText, read]

theorem ofText_of_fault (refused : parse version = .error fault) :
    ofText version = .error (.malformed version fault) := by
  rw [ofText, refused]

/-- A version that cannot be read is reported, whatever the threshold is. -/
theorem compareWith_of_fault (refused : parse version = .error fault) (threshold : String) (comparison : Comparison) :
    compareWith version threshold comparison = .error (.malformed version fault) := by
  rw [compareWith, ofText_of_fault refused]
  rfl

/-- Behind a version that can be read, a threshold that cannot is reported. -/
theorem compareWith_of_threshold_fault (read : parse version = .ok v) (refused : parse threshold = .error fault)
    (comparison : Comparison) :
    compareWith version threshold comparison = .error (.malformed threshold fault) := by
  rw [compareWith, ofText_of_parse read, ofText_of_fault refused]
  rfl

/-- Texts that can be read are compared. -/
theorem compareWith_of_parse (read : parse version = .ok v) (readThreshold : parse threshold = .ok t)
    (comparison : Comparison) :
    compareWith version threshold comparison = .ok (comparison.admits (precedence v t)) :=
  compareWith_of_ofText (ofText_of_parse read) (ofText_of_parse readThreshold) comparison

/-- A version is reported exactly if it cannot be read. -/
theorem compareWith_eq_malformed_iff : compareWith version threshold comparison = .error (.malformed version fault) ↔
    parse version = .error fault := by
  cases read : parse version with
  | error other =>
    rw [compareWith_of_fault read]
    simp
  | ok v =>
    cases readThreshold : parse threshold with
    | error other =>
      rw [compareWith_of_threshold_fault read readThreshold]
      -- The threshold cannot be read and the version can, so they are different texts.
      have different : threshold ≠ version := by
        rintro rfl
        rw [read] at readThreshold
        cases readThreshold
      simp [different]
    | ok t =>
      rw [compareWith_of_parse read readThreshold]
      simp

/-- Behind a version that can be read, a threshold is reported exactly if it cannot. -/
theorem compareWith_eq_malformed_threshold_iff (read : parse version = .ok v) :
    compareWith version threshold comparison = .error (.malformed threshold fault) ↔
      parse threshold = .error fault := by
  cases readThreshold : parse threshold with
  | error other =>
    rw [compareWith_of_threshold_fault read readThreshold]
    simp
  | ok t =>
    rw [compareWith_of_parse read readThreshold]
    simp

/-! ### Operators -/

theorem compareTexts_of_parse? (named : Comparison.parse? operator = some comparison) :
    compareTexts version threshold operator = compareWith version threshold comparison := by
  rw [compareTexts, named]

/-- No fault of a version is one of the operator. -/
theorem compareWith_ne_unknownOperator :
    compareWith version threshold comparison ≠ .error (.unknownOperator operator) := by
  intro reported
  cases read : parse version with
  | error fault =>
    rw [compareWith_of_fault read] at reported
    cases reported
  | ok v =>
    cases readThreshold : parse threshold with
    | error fault =>
      rw [compareWith_of_threshold_fault read readThreshold] at reported
      cases reported
    | ok t =>
      rw [compareWith_of_parse read readThreshold] at reported
      cases reported

/-- An operator is reported exactly if it names no comparison. -/
theorem compareTexts_eq_unknownOperator_iff {other : String} :
    compareTexts version threshold operator = .error (.unknownOperator other) ↔
      Comparison.parse? operator = none ∧ other = operator := by
  cases named : Comparison.parse? operator with
  | none =>
    rw [compareTexts, named]
    simp [eq_comm]
  | some comparison =>
    rw [compareTexts_of_parse? named]
    simp [compareWith_ne_unknownOperator]

/-! ### Gates -/

theorem gate_of_parse (read : parse version = .ok v) (readThreshold : parse threshold = .ok t)
    (comparison : Comparison) : gate version threshold comparison = comparison.admits (precedence v t) := by
  rw [gate, compareWith_of_parse read readThreshold]

/-- A gate is closed where a text is no version, whatever it asks. -/
theorem gate_of_fault (refused : parse version = .error fault ∨ parse threshold = .error fault)
    (comparison : Comparison) : gate version threshold comparison = false := by
  cases read : parse version with
  | error other => rw [gate, compareWith_of_fault read]
  | ok v =>
    rw [read] at refused
    rcases refused with refused | refused
    · cases refused
    · rw [gate, compareWith_of_threshold_fault read refused]

/-- **The first fault of a comparison is reported, and gates fail safe.** An operator is
reported exactly if it is none of the seven symbols, with any white space around it;
otherwise the version exactly if it cannot be read; otherwise the threshold exactly if
it cannot; and otherwise the texts are compared. The reported text is the one that was
given. Where both texts are read, exactly one of a gate and its complement is open, and
both agree with the comparison; where one of the texts is not read, both are closed. -/
theorem compareTexts_fails_first (version threshold operator : String) :
    (∀ reported, compareTexts version threshold operator = .error (.unknownOperator reported) ↔
      (∀ symbol ∈ ["=", "==", "!=", ">", ">=", "<", "<="], ¬ Text.IsTrimmed operator.toList symbol.toList) ∧
        reported = operator) ∧
    (∀ comparison : Comparison, ∀ symbol ∈ comparison.symbols, Text.IsTrimmed operator.toList symbol.toList →
      (∀ fault, compareTexts version threshold operator = .error (.malformed version fault) ↔
        parse version = .error fault) ∧
      ∀ v, parse version = .ok v →
        (∀ fault, compareTexts version threshold operator = .error (.malformed threshold fault) ↔
          parse threshold = .error fault) ∧
        ∀ t, parse threshold = .ok t →
          compareTexts version threshold operator = compareWith version threshold comparison ∧
            compareWith version threshold comparison = .ok (comparison.admits (precedence v t))) ∧
    ∀ comparison : Comparison,
      (∀ v t, parse version = .ok v → parse threshold = .ok t →
        gate version threshold comparison.complement = !gate version threshold comparison ∧
          compareWith version threshold comparison = .ok (gate version threshold comparison) ∧
          compareWith version threshold comparison.complement = .ok (gate version threshold comparison.complement)) ∧
      ∀ fault, parse version = .error fault ∨ parse threshold = .error fault →
        gate version threshold comparison = false ∧ gate version threshold comparison.complement = false := by
  refine ⟨?_, ?_, fun comparison => ⟨?_, ?_⟩⟩
  · intro reported
    rw [compareTexts_eq_unknownOperator_iff, Comparison.parse?_eq_none_iff]
  · intro comparison symbol own trimmed
    have named : Comparison.parse? operator = some comparison :=
      Comparison.parse?_eq_some_iff.mpr ⟨symbol, own, trimmed⟩
    rw [compareTexts_of_parse? named]
    refine ⟨fun _ => compareWith_eq_malformed_iff, fun v read => ⟨?_, ?_⟩⟩
    · exact fun _ => compareWith_eq_malformed_threshold_iff read
    · exact fun t readThreshold => ⟨rfl, compareWith_of_parse read readThreshold comparison⟩
  · intro v t read readThreshold
    rw [gate_of_parse read readThreshold, gate_of_parse read readThreshold]
    refine ⟨Comparison.admits_complement comparison _, ?_, ?_⟩
    · exact compareWith_of_parse read readThreshold comparison
    · exact compareWith_of_parse read readThreshold comparison.complement
  · intro fault refused
    exact ⟨gate_of_fault refused comparison, gate_of_fault refused comparison.complement⟩

/-- Two texts that are no versions, and an operator with white space around it: the
version is reported, and neither an upper nor a lower bound lets it through. -/
theorem compareTexts_fails_first_latest :
    compareTexts "latest" "" "\u2003==\n" = .error (.malformed "latest" (.unexpectedChar 'l' .major)) ∧
      compareTexts "0.4" "" "\u2003==\n" = .error (.malformed "" (.unexpectedChar '.' .major)) ∧
      gate "latest" "0.4" .less = false ∧ gate "latest" "0.4" .greaterOrEqual = false ∧
      gate "0.4" "v0.4.0-rc1" .less = !gate "0.4" "v0.4.0-rc1" .greaterOrEqual := by
  have trimmed : Text.IsTrimmed "\u2003==\n".toList "==".toList := Text.isTrimmed_iff.mpr (by decide)
  have refused : parse "latest" = .error (.unexpectedChar 'l' .major) := rfl
  have read : parse "0.4" = .ok ⟨0, 4, 0, [], []⟩ := rfl
  have first := (compareTexts_fails_first "latest" "" "\u2003==\n").2.1 .equal "==" (by decide) trimmed
  have second := (compareTexts_fails_first "0.4" "" "\u2003==\n").2.1 .equal "==" (by decide) trimmed
  have closed := ((compareTexts_fails_first "latest" "0.4" "").2.2 .less).2 _ (.inl refused)
  have opened := ((compareTexts_fails_first "0.4" "v0.4.0-rc1" "").2.2 .greaterOrEqual).1 _ _ read rfl
  exact ⟨(first.1 _).mpr refused, ((second.2 _ read).1 _).mpr rfl, closed.1, closed.2, opened.1⟩

end Version

end ControllerSynthesis
