import OneShot.Text.Blank

/-! The flags that hold at a point of a pattern. In spaced patterns white space and comments up to the
end of the line stand for nothing. -/

namespace OneShot.Pattern

structure Flags where
  caseless : Bool
  unicode : Bool
  spaced : Bool
  deriving DecidableEq, Repr

namespace Flags

def standard : Flags := ⟨false, true, false⟩

def dropSpace (comment : Bool) : List Char → List Char
  | [] => []
  | c :: s =>
    if comment then dropSpace (c != '\n') s
    else if isBlank c then dropSpace false s
    else if c = '#' then dropSpace true s
    else c :: s

def skip (f : Flags) (s : List Char) : List Char :=
  if f.spaced then dropSpace false s else s

/-- The letters of the flags, of which some have no bearing on whether a pattern is well formed. -/
def letters : List Char := ['i', 'm', 's', 'U', 'u', 'R', 'x']

/-- Whether a letter turns a flag on or off. The letters after a dash turn off. -/
def switched (items : List Char) (letter : Char) (before : Bool) : Bool :=
  let on := items.takeWhile fun c => c != '-'
  if on.contains letter then true
  else if items.contains letter then false
  else before

def change (f : Flags) (items : List Char) : Flags :=
  ⟨switched items 'i' f.caseless, switched items 'u' f.unicode, switched items 'x' f.spaced⟩

/-- Whether the items of a change are letters, each once, with at most one dash that is not last. -/
def isChange (items : List Char) : Bool :=
  (items.all fun c => c == '-' || letters.contains c) && decide items.Nodup &&
    items.getLast? != some '-'

end Flags

end OneShot.Pattern
