/-
# Lines and what they are cut at

A line goes up to the first character that ends lines, or to the end of the text.
Which characters end lines depends on the reader, so they are a parameter. A text is
cut at the lines that are three hyphens: what stands between two of them is one part.

Where every part is without such a line, cutting parts that were joined by one gives
the parts back, provided that each part but the last ends its last line.

Key definitions: `Text.lines`, `Text.cut`, `Text.EveryLine`, `Text.Unmarked`.
Key theorems: `Text.lines_append`, `Text.unmarked_of_mem_lines`, `Text.cut_append`,
`Text.length_cut_append`.
-/
import ControllerSynthesis.Proofs.Yaml.Place

namespace ControllerSynthesis.Text

open Yaml (endsWith)

/-! ### Lines -/

/-- The lines of a text, each with the character that ends it. -/
def lines (ends : Char → Bool) : List Char → List (List Char)
  | [] => []
  | c :: cs =>
    if ends c then [c] :: lines ends cs
    else
      match lines ends cs with
      | [] => [[c]]
      | line :: more => (c :: line) :: more

/-- A line without the character that ends it. -/
def content (ends : Char → Bool) (line : List Char) : List Char :=
  line.takeWhile fun c => !ends c

/-- The line that stands between documents. -/
def hyphens : List Char := ['-', '-', '-']

/-- Whether a line is the one that stands between documents. -/
def isMark (ends : Char → Bool) (line : List Char) : Bool :=
  content ends line == hyphens

/-- The parts of a text between its lines of three hyphens. -/
def cut (ends : Char → Bool) (text : List Char) : List (List Char) :=
  ((lines ends text).splitOnP (isMark ends)).map List.flatten

variable {ends : Char → Bool} {text more : List Char}

theorem lines_cons_end {c : Char} (ending : ends c = true) (cs : List Char) :
    lines ends (c :: cs) = [c] :: lines ends cs := by
  rw [lines, if_pos ending]

theorem lines_cons_inside {c : Char} {cs line : List Char} {others : List (List Char)}
    (inside : ends c = false) (same : lines ends cs = line :: others) :
    lines ends (c :: cs) = (c :: line) :: others := by
  simp [lines, inside, same]

theorem flatten_lines (ends : Char → Bool) : ∀ text : List Char, (lines ends text).flatten = text
  | [] => rfl
  | c :: cs => by
    have ih := flatten_lines ends cs
    rw [lines]
    split
    · rw [List.flatten_cons, ih]
      rfl
    · split
      · rename_i none
        rw [none] at ih
        simp [← ih]
      · rename_i line others same
        rw [same] at ih
        simp [← ih]

theorem lines_eq_nil {text : List Char} (none : lines ends text = []) : text = [] := by
  have whole := flatten_lines ends text
  rw [none] at whole
  exact whole.symm

/-- Behind the end of a line the next one begins. -/
theorem lines_append : ∀ {text : List Char}, endsWith ends text = true → ∀ more : List Char,
    lines ends (text ++ more) = lines ends text ++ lines ends more
  | [], closed, _ => by simp [endsWith] at closed
  | c :: cs, closed, more => by
    cases ending : ends c with
    | true =>
      cases cs with
      | nil => simp [lines, ending]
      | cons d ds =>
        rw [List.cons_append, lines_cons_end ending, lines_cons_end ending,
          lines_append (by simpa [endsWith] using closed) more, List.cons_append]
    | false =>
      cases cs with
      | nil => simp [endsWith, ending] at closed
      | cons d ds =>
        have later := lines_append (by simpa [endsWith] using closed : endsWith ends (d :: ds) = true) more
        cases same : lines ends (d :: ds) with
        | nil => cases lines_eq_nil same
        | cons line others =>
          rw [same] at later
          have whole : lines ends (c :: (d :: ds ++ more)) = (c :: line) :: (others ++ lines ends more) :=
            lines_cons_inside ending later
          rw [lines_cons_inside ending same]
          exact whole

/-- The first characters of the first line are those of the text, as long as none of
them ends it. -/
theorem take_line : ∀ {text line : List Char} {others : List (List Char)}, lines ends text = line :: others →
    ∀ {n : Nat}, (∀ c ∈ line.take n, ends c = false) → line.take n = text.take n
  | [], _, _, same, _, _ => by cases same
  | c :: cs, line, others, same, n, inside => by
    cases n with
    | zero => rfl
    | succ n =>
      cases ending : ends c with
      | true =>
        rw [lines_cons_end ending] at same
        obtain ⟨rfl, -⟩ := List.cons.inj same
        have free := inside c List.mem_cons_self
        rw [ending] at free
        cases free
      | false =>
        cases later : lines ends cs with
        | nil =>
          have alone := lines_eq_nil later
          subst alone
          simp only [lines, ending, Bool.false_eq_true, if_false] at same
          obtain ⟨rfl, -⟩ := List.cons.inj same
          rfl
        | cons first rest =>
          rw [lines_cons_inside ending later] at same
          obtain ⟨rfl, -⟩ := List.cons.inj same
          rw [List.take_succ_cons, List.take_succ_cons,
            take_line later fun d mem => inside d (List.mem_cons_of_mem c mem)]

/-! ### What lines begin with -/

/-- Whether a text has another character than a hyphen among its first three. -/
def Unmarked (text : List Char) : Prop :=
  ∃ c ∈ text.take 3, c ≠ '-'

/-- From every start of a line on, a text is without a mark; `start` says whether it is
at the start of a line itself. -/
def EveryLine (ends : Char → Bool) : Bool → List Char → Prop
  | _, [] => True
  | start, c :: cs => (start = true → Unmarked (c :: cs)) ∧ EveryLine ends (ends c) cs

theorem unmarked_cons {c : Char} (other : c ≠ '-') (cs : List Char) : Unmarked (c :: cs) :=
  ⟨c, List.mem_cons_self, other⟩

theorem unmarked_hyphen {c : Char} (other : c ≠ '-') (cs : List Char) : Unmarked ('-' :: c :: cs) :=
  ⟨c, List.mem_cons_of_mem _ List.mem_cons_self, other⟩

theorem Unmarked.append {text : List Char} (unmarked : Unmarked text) (more : List Char) :
    Unmarked (text ++ more) := by
  obtain ⟨c, mem, other⟩ := unmarked
  refine ⟨c, ?_, other⟩
  rw [List.take_append]
  exact List.mem_append_left _ mem

theorem EveryLine.cons_inside {c : Char} {cs : List Char} (every : EveryLine ends (ends c) cs) :
    EveryLine ends false (c :: cs) :=
  ⟨fun first => absurd first Bool.false_ne_true, every⟩

theorem EveryLine.inside {text : List Char} {start : Bool} (every : EveryLine ends start text) :
    EveryLine ends false text := by
  cases text with
  | nil => trivial
  | cons c cs => exact EveryLine.cons_inside every.2

/-- Joined texts, of which the second may be at the start of a line. -/
theorem EveryLine.append : ∀ {text more : List Char} {start : Bool}, EveryLine ends start text →
    EveryLine ends true more → EveryLine ends start (text ++ more)
  | [], more, start, _, later => by
    cases start with
    | true => exact later
    | false => exact later.inside
  | c :: cs, more, start, every, later =>
    ⟨fun first => (every.1 first).append more, every.2.append later⟩

/-- A part without the end of a line goes on in the same line. -/
theorem EveryLine.append_inside : ∀ {text more : List Char}, (∀ c ∈ text, ends c = false) →
    EveryLine ends false more → EveryLine ends false (text ++ more)
  | [], _, _, later => later
  | c :: cs, more, inside, later => by
    refine EveryLine.cons_inside ?_
    rw [inside c List.mem_cons_self]
    exact EveryLine.append_inside (fun d mem => inside d (List.mem_cons_of_mem c mem)) later

/-- If fewer characters end lines, fewer lines begin. -/
theorem EveryLine.coarser {fewer : Char → Bool} (less : ∀ c, fewer c = true → ends c = true) :
    ∀ {text : List Char} {start first : Bool}, (first = true → start = true) → EveryLine ends start text →
      EveryLine fewer first text
  | [], _, _, _, _ => trivial
  | c :: _, _, _, earlier, every =>
    ⟨fun first => every.1 (earlier first), every.2.coarser less (less c)⟩

theorem unmarked_line {line : List Char} {others : List (List Char)} (hyphen : ends '-' = false)
    (same : lines ends text = line :: others) (unmarked : Unmarked text) : Unmarked line := by
  refine Classical.byContradiction fun marked => ?_
  have all : ∀ c ∈ line.take 3, c = '-' := fun c mem =>
    Classical.byContradiction fun other => marked ⟨c, mem, other⟩
  have first : line.take 3 = text.take 3 := take_line same fun c mem => (all c mem) ▸ hyphen
  obtain ⟨c, mem, other⟩ := unmarked
  exact other (all c (first ▸ mem))

theorem unmarked_lines (hyphen : ends '-' = false) : ∀ {text : List Char} {start : Bool},
    EveryLine ends start text → ∀ {line : List Char} {others : List (List Char)},
      lines ends text = line :: others → ∀ l ∈ others, Unmarked l
  | [], _, _, _, _, same, _, _ => by cases same
  | c :: cs, start, every, line, others, same, l, mem => by
    cases ending : ends c with
    | true =>
      rw [lines_cons_end ending] at same
      obtain ⟨-, rfl⟩ := List.cons.inj same
      have later := every.2
      rw [ending] at later
      cases cs with
      | nil => cases mem
      | cons d ds =>
        cases next : lines ends (d :: ds) with
        | nil => cases lines_eq_nil next
        | cons first rest =>
          rw [next] at mem
          rcases List.mem_cons.mp mem with rfl | mem
          · exact unmarked_line hyphen next (later.1 rfl)
          · exact unmarked_lines hyphen later next l mem
    | false =>
      cases next : lines ends cs with
      | nil =>
        have alone := lines_eq_nil next
        subst alone
        simp only [lines, ending, Bool.false_eq_true, if_false] at same
        obtain ⟨-, rfl⟩ := List.cons.inj same
        cases mem
      | cons first rest =>
        rw [lines_cons_inside ending next] at same
        obtain ⟨-, rfl⟩ := List.cons.inj same
        exact unmarked_lines hyphen every.2 next l mem

/-- **Then no line begins with three hyphens.** -/
theorem unmarked_of_mem_lines (hyphen : ends '-' = false) (every : EveryLine ends true text) :
    ∀ l ∈ lines ends text, Unmarked l := by
  intro l mem
  cases same : lines ends text with
  | nil =>
    rw [same] at mem
    cases mem
  | cons first rest =>
    have unmarked : Unmarked text := by
      cases text with
      | nil => cases same
      | cons c cs => exact every.1 rfl
    rw [same] at mem
    rcases List.mem_cons.mp mem with rfl | mem
    · exact unmarked_line hyphen same unmarked
    · exact unmarked_lines hyphen every same l mem

theorem not_prefix_of_unmarked {line : List Char} (unmarked : Unmarked line) :
    ¬ hyphens <+: content ends line := by
  rintro begins
  obtain ⟨rest, same⟩ := begins.trans (List.takeWhile_prefix _)
  obtain ⟨c, mem, other⟩ := unmarked
  rw [← same] at mem
  have hyphen : c = '-' := by simpa [hyphens] using mem
  exact other hyphen

theorem isMark_of_unmarked {line : List Char} (unmarked : Unmarked line) : isMark ends line = false := by
  refine Bool.eq_false_iff.mpr fun mark => ?_
  have same : content ends line = hyphens := beq_iff_eq.mp mark
  have begins : hyphens <+: content ends line := same ▸ List.prefix_refl hyphens
  exact not_prefix_of_unmarked unmarked begins

/-! ### Cutting -/

theorem cut_of_unmarked (none : ∀ l ∈ lines ends text, isMark ends l = false) : cut ends text = [text] := by
  rw [cut, List.splitOnP_eq_singleton none, List.map_singleton, flatten_lines]

/-- A line of three hyphens. -/
def markLine (e : Char) : List Char :=
  hyphens ++ [e]

theorem lines_markLine {e : Char} (hyphen : ends '-' = false) (ending : ends e = true) :
    lines ends (markLine e) = [markLine e] := by
  simp [markLine, hyphens, lines, hyphen, ending]

theorem isMark_markLine {e : Char} (hyphen : ends '-' = false) (ending : ends e = true) :
    isMark ends (markLine e) = true := by
  simp [isMark, content, markLine, hyphens, hyphen, ending]

theorem lines_append_markLine {e : Char} (hyphen : ends '-' = false) (ending : ends e = true)
    (closed : endsWith ends text = true) (more : List Char) :
    lines ends (text ++ (markLine e ++ more)) = lines ends text ++ markLine e :: lines ends more := by
  have mark : endsWith ends (markLine e) = true := by
    simp [markLine, hyphens, endsWith, ending]
  rw [lines_append closed, lines_append mark, lines_markLine hyphen ending, List.singleton_append]

/-- **A part in front of a mark is cut off**, if it ends its last line. -/
theorem cut_append {e : Char} (hyphen : ends '-' = false) (ending : ends e = true)
    (none : ∀ l ∈ lines ends text, isMark ends l = false) (closed : endsWith ends text = true)
    (more : List Char) : cut ends (text ++ (markLine e ++ more)) = text :: cut ends more := by
  rw [cut, lines_append_markLine hyphen ending closed,
    List.splitOnP_append_cons_of_forall_mem none _ (isMark_markLine hyphen ending), List.map_cons, flatten_lines]
  rfl

/-- A last line that is not ended goes on in what stands behind it. -/
theorem lines_append_open {first : List Char} {rest : List (List Char)} (behind : lines ends more = first :: rest) :
    ∀ {text : List Char}, text ≠ [] → endsWith ends text = false →
      ∃ (before : List (List Char)) (last : List Char), lines ends text = before ++ [last] ∧
        lines ends (text ++ more) = before ++ (last ++ first) :: rest
  | [], nonempty, _ => absurd rfl nonempty
  | [c], _, goesOn => by
    have inside : ends c = false := by simpa [endsWith] using goesOn
    exact ⟨[], [c], by simp [lines, inside], lines_cons_inside inside behind⟩
  | c :: d :: ds, _, goesOn => by
    obtain ⟨before, last, here, joined⟩ := lines_append_open behind (List.cons_ne_nil d ds)
      (by simpa [endsWith] using goesOn)
    cases ending : ends c with
    | true =>
      refine ⟨[c] :: before, last, ?_, ?_⟩
      · rw [lines_cons_end ending, here]
        rfl
      · rw [List.cons_append, lines_cons_end ending, joined]
        rfl
    | false =>
      cases before with
      | nil => exact ⟨[], c :: last, lines_cons_inside ending here, lines_cons_inside ending joined⟩
      | cons line before =>
        exact ⟨(c :: line) :: before, last, lines_cons_inside ending here, lines_cons_inside ending joined⟩

/-- Items that separate nothing make no further groups. -/
theorem length_splitOnP_append {α : Type} {p : α → Bool} {xs : List α} (none : ∀ x ∈ xs, p x = false) (ys : List α) :
    ((xs ++ ys).splitOnP p).length = (ys.splitOnP p).length := by
  induction xs with
  | nil => rfl
  | cons x xs ih =>
    have here : p x = false := none x List.mem_cons_self
    have later := ih fun y mem => none y (List.mem_cons_of_mem x mem)
    rw [List.cons_append, List.splitOnP_cons_eq_if_modifyHead, here, ← later]
    simp

/-- **A mark behind a line that is not ended cuts nothing off.** -/
theorem length_cut_append_open {e : Char} (hyphen : ends '-' = false) (ending : ends e = true)
    (unmarked : ∀ l ∈ lines ends text, Unmarked l) (nonempty : text ≠ []) (goesOn : endsWith ends text = false)
    (more : List Char) : (cut ends (text ++ (markLine e ++ more))).length = (cut ends more).length := by
  have mark : endsWith ends (markLine e) = true := by
    simp [markLine, hyphens, endsWith, ending]
  have behind : lines ends (markLine e ++ more) = markLine e :: lines ends more := by
    rw [lines_append mark, lines_markLine hyphen ending]
    rfl
  obtain ⟨before, last, here, joined⟩ := lines_append_open behind nonempty goesOn
  have none : ∀ l ∈ before ++ [last ++ markLine e], isMark ends l = false := by
    intro l mem
    rw [here] at unmarked
    rcases List.mem_append.mp mem with mem | mem
    · exact isMark_of_unmarked (unmarked l (List.mem_append_left _ mem))
    · rw [List.mem_singleton.mp mem]
      exact isMark_of_unmarked ((unmarked last (by simp)).append (markLine e))
  have count := length_splitOnP_append none (lines ends more)
  rw [cut, cut, joined, List.length_map, List.length_map, ← count, List.append_assoc]
  rfl

/-- A part in front of a mark counts if it ends its last line. -/
theorem length_cut_append {e : Char} (hyphen : ends '-' = false) (ending : ends e = true)
    (unmarked : ∀ l ∈ lines ends text, Unmarked l) (nonempty : text ≠ []) (more : List Char) :
    (cut ends (text ++ (markLine e ++ more))).length = (cut ends more).length + (endsWith ends text).toNat := by
  cases closed : endsWith ends text with
  | true =>
    have none : ∀ l ∈ lines ends text, isMark ends l = false := fun l mem => isMark_of_unmarked (unmarked l mem)
    rw [cut_append hyphen ending none closed, List.length_cons]
    rfl
  | false => exact length_cut_append_open hyphen ending unmarked nonempty closed more

end ControllerSynthesis.Text
