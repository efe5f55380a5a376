/-
# Versions and their precedence

A version has three numbers, the segments of a pre-release and the segments of
build metadata. The precedence of versions compares the numbers, then the
pre-releases; build metadata takes no part in it. A version without a
pre-release comes after all its pre-releases, and of two pre-releases with a
common start the shorter comes first. A segment of digits counts as a number,
of any length, and comes before a segment with a letter or a hyphen.

Key definitions: `Version`, `Version.display`, `Version.precedence`.
-/
import ControllerSynthesis.Number.Digits

namespace ControllerSynthesis

/-- A version: `major.minor.patch`, then the segments of its pre-release and of
its build metadata, none when it has none. -/
structure Version where
  major : Nat
  minor : Nat
  patch : Nat
  pre : List (List Char) := []
  build : List (List Char) := []
  deriving Repr, DecidableEq

namespace Version

/-- The largest number a version can hold. -/
def maxNumber : Nat := Nat.pow 2 64 - 1

/-- Whether `c` may stand in a segment of a pre-release or of build metadata. -/
def isSegmentChar (c : Char) : Bool :=
  Digits.isDecimal c || ('a' ≤ c && c ≤ 'z') || ('A' ≤ c && c ≤ 'Z') || c == '-'

/-- Segments with dots between them. -/
def joined (segments : List (List Char)) : List Char :=
  List.intercalate ['.'] segments

/-- Segments after `mark`, nothing when there are none. -/
def suffix (mark : Char) : List (List Char) → List Char
  | [] => []
  | segments => mark :: joined segments

/-- The canonical text `major.minor.patch[-pre][+build]`. -/
def display (v : Version) : List Char :=
  Digits.ofNat 10 v.major ++ '.' :: Digits.ofNat 10 v.minor ++ '.' :: Digits.ofNat 10 v.patch ++
    suffix '-' v.pre ++ suffix '+' v.build

/-- The dictionary order that `order` gives: the first difference decides, and
a list comes before those that extend it. -/
def lexicographic {α : Type} (order : α → α → Ordering) : List α → List α → Ordering
  | [], [] => .eq
  | [], _ :: _ => .lt
  | _ :: _, [] => .gt
  | a :: as, b :: bs => (order a b).then (lexicographic order as bs)

/-- The order of characters by code point. -/
def charOrder (a b : Char) : Ordering :=
  compare a.toNat b.toNat

/-- The order of segments: numbers by length and then digit by digit, before
all other segments, which go by code point. -/
def segmentOrder (a b : List Char) : Ordering :=
  match a.all Digits.isDecimal, b.all Digits.isDecimal with
  | true, true => (compare a.length b.length).then (lexicographic charOrder a b)
  | true, false => .lt
  | false, true => .gt
  | false, false => lexicographic charOrder a b

/-- The order of pre-releases: none comes last. -/
def preOrder : List (List Char) → List (List Char) → Ordering
  | [], [] => .eq
  | [], _ :: _ => .gt
  | _ :: _, [] => .lt
  | a, b => lexicographic segmentOrder a b

/-- The precedence of versions: the three numbers, then the pre-release. -/
def precedence (v w : Version) : Ordering :=
  (compare v.major w.major).then <|
  (compare v.minor w.minor).then <|
  (compare v.patch w.patch).then (preOrder v.pre w.pre)

end Version

end ControllerSynthesis
