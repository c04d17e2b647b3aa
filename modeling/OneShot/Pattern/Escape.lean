import OneShot.Pattern.Flags

/-! The smallest pieces of a pattern, and those that a backslash begins. Patterns come without tables
of Unicode: there is no case and no class of characters beyond ASCII, and what would need one is
refused. -/

namespace OneShot.Pattern

inductive Atom
  /-- A character. `byte` tells that it was given by two hexadecimal digits. -/
  | literal (c : Char) (byte : Bool)
  | named (complement : Bool)
  | boundary
  | edge
  deriving DecidableEq, Repr

def Atom.fits (f : Flags) : Atom → Bool
  | literal c byte => if f.unicode then !f.caseless else !(byte && 0x80 ≤ c.toNat)
  | named complement => !f.unicode && !complement
  | boundary | edge => true

def Atom.fitsBracket (f : Flags) : Atom → Bool
  | literal c _ => if f.unicode then !f.caseless else c.toNat < 0x80
  | named complement => !f.unicode && !complement
  | boundary | edge => false

def hexDigit? (c : Char) : Option Nat :=
  if c.isDigit then some (c.toNat - '0'.toNat)
  else if 'a' ≤ c ∧ c ≤ 'f' then some (c.toNat - 'a'.toNat + 10)
  else if 'A' ≤ c ∧ c ≤ 'F' then some (c.toNat - 'A'.toNat + 10)
  else none

def hexNumber? (f : Flags) (value : Nat) : Nat → List Char → Option (Nat × List Char)
  | 0, s => some (value, s)
  | n + 1, s =>
    match f.skip s with
    | [] => none
    | c :: s =>
      match hexDigit? c with
      | some d => hexNumber? f (value * 16 + d) n s
      | none => none

def numbered? (f : Flags) (digits : Nat) (s : List Char) : Option (Atom × List Char) :=
  match hexNumber? f 0 digits s with
  | some (n, s) =>
    if n.isValidChar then some (.literal (Char.ofNat n) (digits == 2), s) else none
  | none => none

def metaCharacters : List Char :=
  ['\\', '.', '+', '*', '?', '(', ')', '|', '[', ']', '\x7b', '\x7d', '^', '$', '#', '&', '-', '~']

def controls : List (Char × Char) :=
  [('a', '\x07'), ('f', '\x0c'), ('t', '\t'), ('n', '\n'), ('r', '\r'), ('v', '\x0b')]

def isLiteralEscape (c : Char) : Bool :=
  metaCharacters.contains c ||
    (c.toNat < 0x80 && !c.isAlphanum && c != '<' && c != '>')

def escape? (f : Flags) : List Char → Option (Atom × List Char)
  | [] => none
  | 'x' :: s => numbered? f 2 s
  | 'u' :: s => numbered? f 4 s
  | 'U' :: s => numbered? f 8 s
  | c :: s =>
    if ['d', 's', 'w'].contains c then some (.named false, s)
    else if ['D', 'S', 'W'].contains c then some (.named true, s)
    else if ['A', 'z'].contains c then some (.edge, s)
    else if ['b', 'B', '<', '>'].contains c then some (.boundary, s)
    else if isLiteralEscape c then some (.literal c false, s)
    else match controls.find? fun e => e.1 == c with
      | some (_, control) => some (.literal control false, s)
      | none => none

end OneShot.Pattern
