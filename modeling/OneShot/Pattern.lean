import OneShot.Pattern.Bracket
import OneShot.Text.Letter

/-! Patterns for text. What is asked of a pattern is whether it can be used: it must be well formed, not
too deep, and free of what only tables of Unicode could tell. The texts given here hold no closing
brace, so a count of repetitions is never complete. -/

namespace OneShot

inductive PatternFault
  | malformed
  | wordBoundary
  deriving DecidableEq, Repr

def PatternFault.message : PatternFault → String
  | malformed => "error building NFA"
  | wordBoundary =>
    "unsupported regex feature for DFAs: cannot build DFAs for regexes with Unicode word " ++
      "boundaries; switch to ASCII word boundaries, or heuristically enable Unicode word " ++
      "boundaries or use a different regex engine"

namespace Pattern

/-- The part of a group that has been read: the depths of the alternatives before this one, and those
of the items of this one, latest first. A change of flags is an item without a depth. -/
structure Branch where
  alternatives : List Nat
  items : List (Option Nat)

namespace Branch

def empty : Branch := ⟨[], []⟩

def add (b : Branch) (depth : Nat) : Branch :=
  { b with items := some depth :: b.items }

def sequenceDepth (b : Branch) : Nat :=
  besides (b.items.map fun d => d.getD 0)

def depth (b : Branch) : Nat :=
  besides (b.sequenceDepth :: b.alternatives)

def alternate (b : Branch) : Branch := ⟨b.sequenceDepth :: b.alternatives, []⟩

end Branch

structure Progress where
  flags : Flags
  here : Branch
  outer : List (Branch × Flags)
  names : List (List Char)
  boundary : Bool

namespace Progress

def start : Progress := ⟨.standard, .empty, [], [], false⟩

def add (p : Progress) (depth : Nat) : Progress :=
  { p with here := p.here.add depth }

def opened (p : Progress) (flags : Flags) : Progress :=
  { p with flags := flags, here := .empty, outer := (p.here, p.flags) :: p.outer }

def closed? (p : Progress) : Option Progress :=
  match p.outer with
  | [] => none
  | (branch, flags) :: outer =>
    some { p with flags := flags, here := branch.add (1 + p.here.depth), outer := outer }

def addAtom (p : Progress) (a : Atom) : Option Progress :=
  if a.fits p.flags then
    some { p.add 0 with boundary := p.boundary || (a == .boundary && p.flags.unicode) }
  else none

def repeated? (p : Progress) : Option Progress :=
  match p.here.items with
  | some depth :: items => some { p with here := { p.here with items := some (1 + depth) :: items } }
  | _ => none

end Progress

def isGroupName : List Char → Bool
  | [] => false
  | c :: s =>
    (c == '_' || isLetter c) &&
      s.all fun d => d == '_' || d == '.' || d == '[' || d == ']' || isLetter d || isNumeral d

def namedGroup? (p : Progress) (s : List Char) : Option (Progress × List Char) :=
  match cutFirst '>' s with
  | some (name, s) =>
    if isGroupName name && !p.names.contains name then
      some ({ p with names := name :: p.names }.opened p.flags, s)
    else none
  | none => none

def flagGroup? (p : Progress) (s : List Char) : Option (Progress × List Char) :=
  let items := s.takeWhile fun c => c != ':' && c != ')'
  if Flags.isChange items then
    match s.drop items.length with
    | ':' :: s => some (p.opened (p.flags.change items), s)
    | ')' :: s =>
      if items.isEmpty then none
      else some ({ p with
        flags := p.flags.change items
        here := { p.here with items := none :: p.here.items } }, s)
    | _ => none
  else none

def group? (p : Progress) (s : List Char) : Option (Progress × List Char) :=
  match p.flags.skip s with
  | '?' :: 'P' :: '<' :: s | '?' :: '<' :: s => namedGroup? p s
  | '?' :: s => flagGroup? p s
  | s => some (p.opened p.flags, s)

def step? (p : Progress) (c : Char) (s : List Char) : Option (Progress × List Char) :=
  match c with
  | '(' => group? p s
  | ')' => p.closed?.map fun p => (p, s)
  | '|' => some ({ p with here := p.here.alternate }, s)
  | '[' => (Bracket.read? p.flags s).map fun (depth, s) => (p.add depth, s)
  | '*' | '+' | '?' => p.repeated?.map fun p => (p, if s.head? = some '?' then s.drop 1 else s)
  | '\x7b' => none
  | '.' => if p.flags.unicode then some (p.add 0, s) else none
  | '^' | '$' => (p.addAtom .edge).map fun p => (p, s)
  | '\\' => do
    let (a, s) ← escape? p.flags s
    let p ← p.addAtom a
    return (p, s)
  | c => (p.addAtom (.literal c false)).map fun p => (p, s)

def readFrom : Nat → Progress → List Char → Option Progress
  | 0, _, _ => none
  | fuel + 1, p, s =>
    match p.flags.skip s with
    | [] => if p.outer.isEmpty then some p else none
    | c :: s =>
      match step? p c s with
      | some (p, s) => readFrom fuel p s
      | none => none

def deepest : Nat := 250

def check (s : List Char) : Except PatternFault Unit :=
  match readFrom (s.length + 1) .start s with
  | none => .error .malformed
  | some p =>
    if deepest < p.here.depth then .error .malformed
    else if p.boundary then .error .wordBoundary
    else .ok ()

end Pattern

end OneShot
