import OneShot.Pattern.Escape

/-! Sets of characters in brackets. A set holds characters, ranges, named sets and further sets in
brackets, and sets are combined by `&&`, `--` and `~~`. What is asked of a set is whether it is well
formed and how deep it is. -/

namespace OneShot.Pattern

/-- The depth of parts that stand side by side. A single part adds nothing. -/
def besides : List Nat → Nat
  | [] => 0
  | [depth] => depth
  | depths => 1 + depths.foldl max 0

namespace Bracket

/-- A set that has been read in part: the depths of its items since the last operator, and the depth of
what stands to the left of that. -/
structure Level where
  items : List Nat
  left : Option Nat

namespace Level

def add (l : Level) (depth : Nat) : Level :=
  { l with items := depth :: l.items }

def depth (l : Level) : Nat :=
  match l.left with
  | none => besides l.items
  | some left => 1 + max left (besides l.items)

def operate (l : Level) : Level := ⟨[], some l.depth⟩

end Level

def names : List String :=
  ["alnum", "alpha", "ascii", "blank", "cntrl", "digit", "graph", "lower", "print", "punct", "space",
    "upper", "word", "xdigit"]

def named? (s : List Char) : Option (Bool × List Char) :=
  match s with
  | ':' :: s =>
    let complement := s.head? == some '^'
    let body := if complement then s.drop 1 else s
    let name := body.takeWhile fun c => c != ':'
    match body.drop name.length with
    | ':' :: ']' :: s =>
      if names.contains (String.ofList name) then some (complement, s) else none
    | _ => none
  | _ => none

/-- Dashes at the start of a set are characters of it. -/
def dashes (f : Flags) : Nat → List Char → Nat × List Char
  | 0, s => (0, s)
  | fuel + 1, s =>
    match f.skip s with
    | '-' :: s =>
      let (n, s) := dashes f fuel s
      (n + 1, s)
    | s => (0, s)

/-- The start of a set after its bracket. A closing bracket that comes first is a character of the
set. -/
def start? (f : Flags) (s : List Char) : Option (Level × List Char) :=
  let s := f.skip s
  let complement := s.head? == some '^'
  let (n, s) := dashes f s.length (if complement then s.drop 1 else s)
  let (n, s) := match n, s with
    | 0, ']' :: s => (1, s)
    | n, s => (n, s)
  if complement && !f.unicode then none
  else if 0 < n && !(Atom.literal '-' false).fitsBracket f then none
  else some (⟨List.replicate n 0, none⟩, s)

def atom? (f : Flags) : List Char → Option (Atom × List Char)
  | [] => none
  | '\\' :: s => escape? f s
  | c :: s => some (.literal c false, s)

/-- The character that decides on a dash. The sign of a comment is passed over, its text is not. -/
def ahead (f : Flags) (s : List Char) : Option Char :=
  if f.spaced then
    match s.dropWhile isBlank with
    | '#' :: s => (s.dropWhile isBlank).head?
    | s => s.head?
  else s.head?

def makesRange (f : Flags) (s : List Char) : Bool :=
  ahead f s != some ']' && ahead f s != some '-'

def item? (f : Flags) (s : List Char) : Option (List Char) := do
  let (first, s) ← atom? f s
  let s := f.skip s
  match s with
  | '-' :: t =>
    if makesRange f t then
      let (last, t) ← atom? f (f.skip t)
      match first, last with
      | .literal a _, .literal b _ =>
        if a ≤ b && first.fitsBracket f && last.fitsBracket f then return t else none
      | _, _ => none
    else if first.fitsBracket f then return s
    else none
  | s => if first.fitsBracket f then return s else none

def readFrom (f : Flags) : Nat → Level → List Level → List Char → Option (Nat × List Char)
  | 0, _, _, _ => none
  | fuel + 1, here, outer, s =>
    match f.skip s with
    | '[' :: s =>
      match named? s with
      | some (complement, s) =>
        if f.unicode && f.caseless || !f.unicode && complement then none
        else readFrom f fuel (here.add 0) outer s
      | none =>
        match start? f s with
        | some (level, s) => readFrom f fuel level (here :: outer) s
        | none => none
    | ']' :: s =>
      match outer with
      | [] => some (1 + here.depth, s)
      | level :: outer => readFrom f fuel (level.add (1 + here.depth)) outer s
    | '&' :: '&' :: s | '-' :: '-' :: s | '~' :: '~' :: s => readFrom f fuel here.operate outer s
    | s =>
      match item? f s with
      | some s => readFrom f fuel (here.add 0) outer s
      | none => none

def read? (f : Flags) (s : List Char) : Option (Nat × List Char) :=
  match start? f s with
  | some (level, rest) => readFrom f (s.length + 1) level [] rest
  | none => none

end Bracket

end OneShot.Pattern
