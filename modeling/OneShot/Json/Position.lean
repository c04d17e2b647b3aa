import OneShot.Json.Fault

/-! Where a JSON text is wrong. A reader that stops says how far it came, and from the text the line
and the column follow. -/

namespace OneShot.Json

/-- A place in a text: its line, counted from one, and the bytes of that line before it. Line zero says
that the place is not known. -/
structure Position where
  line : Nat
  column : Nat
  deriving DecidableEq, Repr

def Position.after (bytes : List UInt8) : Position :=
  ⟨bytes.count 0x0A + 1, (bytes.reverse.takeWhile fun b => b != 0x0A).length⟩

def cutEnd? (ending : String) (s : List Char) : Option (List Char) :=
  if ending.toList.isSuffixOf s then some (s.take (s.length - ending.length)) else none

def spanEndDigits (s : List Char) : List Char × List Char :=
  let (digits, rest) := spanDigits s.reverse
  (rest.reverse, digits.reverse)

/-- The place that a text ends in, in words and 64-bit numbers, and what is before it. -/
def Position.ofEnd? (s : List Char) : Option (List Char × Position) := do
  let (s, column) := spanEndDigits s
  let (s, line) := spanEndDigits (← cutEnd? " column " s)
  let s ← cutEnd? " at line " s
  let line ← natural? line
  let column ← natural? column
  if line < 1 <<< 64 ∧ column < 1 <<< 64 then some (s, ⟨line, column⟩) else none

inductive Reach
  | upTo (rest : List Char) (taken : Nat)
  /-- Past a value that its type refuses. The record around it gives the place; without one the line is
  not known, and the column is the given one. -/
  | past (rest : List Char) (column : Nat)
  | inside (position : Position)

structure Stop where
  fault : Fault
  reach : Reach

namespace Stop

def before (fault : Fault) (rest : List Char) : Stop :=
  ⟨fault, .upTo rest 0⟩

/-- Stops at the first byte of a rest of the text, or at the end if nothing is left. -/
def met (fault : Fault) (rest : List Char) : Stop :=
  ⟨fault, .upTo rest 1⟩

def ended (fault : Fault) : Stop :=
  ⟨fault, .upTo [] 0⟩

/-- Refuses the value before a rest of the text. Words that end in a place give it themselves. -/
def refuse (words : String) (rest : List Char) : Stop :=
  match Position.ofEnd? words.toList with
  | some (words, position) =>
    ⟨.refused (String.ofList words),
      if position.line = 0 then .past rest position.column else .inside position⟩
  | none => ⟨.refused words, .past rest 0⟩

def place (stop : Stop) (leave : List Char → List Char) : Stop :=
  match stop.reach with
  | .past rest _ => before stop.fault (leave rest)
  | _ => stop

end Stop

structure Flaw where
  fault : Fault
  position : Position

def byteLength : List Char → Nat
  | [] => 0
  | c :: s => c.utf8Size + byteLength s

def Stop.locate (stop : Stop) (text : String) : Flaw :=
  ⟨stop.fault, match stop.reach with
    | .upTo rest taken =>
      let bytes := text.toUTF8.data.toList
      .after (bytes.take (bytes.length - byteLength rest + taken))
    | .past _ column => ⟨0, column⟩
    | .inside position => position⟩

namespace Flaw

def message (flaw : Flaw) : String :=
  flaw.fault.message

def report (flaw : Flaw) : String :=
  if flaw.position.line = 0 then flaw.message
  else
    flaw.message ++ " at line " ++ String.ofList (decimal flaw.position.line) ++ " column " ++
      String.ofList (decimal flaw.position.column)

end Flaw

end OneShot.Json
