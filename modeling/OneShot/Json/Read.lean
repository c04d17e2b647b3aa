import OneShot.Json.Skim
import OneShot.Numeral.IntKind

/-! Readers of single values, of arrays and of objects. A value is checked as soon as its first
character is seen: one of another kind is scanned if it is a word, a number or a string, and then
reported as that kind. -/

namespace OneShot.Json

def Number.found : Number → Found
  | int n _ _ => .integer n
  | real x => .real x

def mismatch (expected : String) (s : List Char) : Stop :=
  match s with
  | [] => .ended .endInValue
  | c :: r =>
    let report (scanned : Except Stop (Found × List Char)) : Stop :=
      match scanned with
      | .ok (found, r) => .before (.wrongKind found expected) r
      | .error stop => stop
    if c = 'n' then report ((scanWord ['u', 'l', 'l'] r).map fun r => (.null, r))
    else if c = 't' then report ((scanWord ['r', 'u', 'e'] r).map fun r => (.bool true, r))
    else if c = 'f' then report ((scanWord ['a', 'l', 's', 'e'] r).map fun r => (.bool false, r))
    else if startsNumber c then
      report ((readNumber s).map fun (n, r) => (n.found, r))
    else if c = '"' then report ((scanString r).map fun (cs, r) => (.string (String.ofList cs), r))
    else if c = '[' then .before (.wrongKind .sequence expected) s
    else if c = '\x7b' then .before (.wrongKind .map expected) s
    else .met .noValue s

/-- A string; `expected` names what it is read for. -/
def readStringAs (expected : String) : Reader String := fun s =>
  match skipSpace s with
  | '"' :: s => (scanString s).map fun (cs, r) => (String.ofList cs, r)
  | s => .error (mismatch expected s)

def readString : Reader String :=
  readStringAs "a string"

def readBool : Reader Bool := fun s =>
  match skipSpace s with
  | 't' :: s => (scanWord ['r', 'u', 'e'] s).map fun r => (true, r)
  | 'f' :: s => (scanWord ['a', 'l', 's', 'e'] s).map fun r => (false, r)
  | s => .error (mismatch "a boolean" s)

def readUnit : Reader Unit := fun s =>
  match skipSpace s with
  | 'n' :: s => (scanWord ['u', 'l', 'l'] s).map fun r => ((), r)
  | s => .error (mismatch "unit" s)

def readChar : Reader Char := fun s => do
  let (text, r) ← readStringAs "a character" s
  match text.toList with
  | [c] => return (c, r)
  | _ => .error (.before (.wrongValue (.string text) "a character") r)

def readOption {α : Type} (read : Reader α) : Reader (Option α) := fun s =>
  match skipSpace s with
  | 'n' :: s => (scanWord ['u', 'l', 'l'] s).map fun r => (none, r)
  | s => (read s).map fun (a, r) => (some a, r)

def readNarrow (k : IntKind) : Reader k.Num := fun s =>
  match skipSpace s with
  | [] => .error (.ended .endInValue)
  | c :: s =>
    if startsNumber c then do
      let (n, r) ← readNumber (c :: s)
      match n with
      | .int n _ _ =>
        match k.ofInt? n with
        | some n => return (n, r)
        | none => .error (.before (.wrongValue (.integer n) k.name) r)
      | .real x => .error (.before (.wrongKind (.real x) k.name) r)
    else .error (mismatch k.name (c :: s))

/-- An integer of 128 bits. Its digits are read alone, whatever follows them. -/
def readWide (k : IntKind) : Reader k.Num := fun s =>
  match skipSpace s with
  | [] => .error (.ended .endInValue)
  | c :: s =>
    let digits (negative : Bool) (s : List Char) : Except Stop (k.Num × List Char) := do
      let (ds, r) ← scanWhole .badNumber s
      let n : Int := digitsValue ds
      match k.ofInt? (if negative then -n else n) with
      | some n => return (n, r)
      | none => .error (.before .numberTooLarge r)
    if c = '-' then if k.signed then digits true s else .error (.met .numberTooLarge (c :: s))
    else digits false (c :: s)

def readInt (k : IntKind) : Reader k.Num :=
  if k.bits = 128 then readWide k else readNarrow k

def readReal {α : Type} (name : String) (ofNumber : Number → α) : Reader α := fun s =>
  match skipSpace s with
  | [] => .error (.ended .endInValue)
  | c :: s =>
    if startsNumber c then (readNumber (c :: s)).map fun (n, r) => (ofNumber n, r)
    else .error (mismatch name (c :: s))

def Number.toFloat : Number → Float
  | int n _ _ => Encoded.toFloat ⟨n < 0, BinaryFormat.binary64.nearest n.natAbs 1⟩
  | real x => x

def Number.toFloat32 : Number → Float32
  | int n _ _ => Encoded.toFloat32 ⟨n < 0, BinaryFormat.binary32.nearest n.natAbs 1⟩
  | real x => x.toFloat32

def readFloat : Reader Float :=
  readReal "f64" Number.toFloat

def readFloat32 : Reader Float32 :=
  readReal "f32" Number.toFloat32

inductive Next
  | done (rest : List Char)
  | more (s : List Char)

def nextItem (first : Bool) (s : List Char) : Except Stop Next :=
  match skipSpace s with
  | [] => .error (.ended .endInList)
  | ']' :: s => .ok (.done s)
  | c :: s =>
    if first then .ok (.more (c :: s))
    else if c = ',' then
      match skipSpace s with
      | [] => .error (.ended .endInValue)
      | ']' :: s => .error (.met .trailingComma (']' :: s))
      | s => .ok (.more s)
    else .error (.met .noListEnd (c :: s))

def nextName (first : Bool) (s : List Char) : Except Stop Next :=
  match skipSpace s with
  | [] => .error (.ended .endInObject)
  | '\x7d' :: s => .ok (.done s)
  | c :: s =>
    if first then if c = '"' then .ok (.more s) else .error (.met .keyNotString (c :: s))
    else if c = ',' then
      match skipSpace s with
      | [] => .error (.ended .endInValue)
      | '"' :: s => .ok (.more s)
      | '\x7d' :: s => .error (.met .trailingComma ('\x7d' :: s))
      | s => .error (.met .keyNotString s)
    else .error (.met .noObjectEnd (c :: s))

def endItems (s : List Char) : Except Stop (List Char) :=
  match skipSpace s with
  | [] => .error (.ended .endInList)
  | ']' :: s => .ok s
  | ',' :: s =>
    match skipSpace s with
    | ']' :: s => .error (.met .trailingComma (']' :: s))
    | s => .error (.met .trailingText s)
  | s => .error (.met .trailingText s)

def endMembers (s : List Char) : Except Stop (List Char) :=
  match skipSpace s with
  | [] => .error (.ended .endInObject)
  | '\x7d' :: s => .ok s
  | ',' :: s => .error (.met .trailingComma (',' :: s))
  | s => .error (.met .trailingText s)

def scanColon (s : List Char) : Except Stop (List Char) :=
  match skipSpace s with
  | [] => .error (.ended .endInObject)
  | ':' :: s => .ok s
  | s => .error (.met .noColon s)

def readItems {α : Type} (item : Reader α) : Nat → Bool → Reader (List α)
  | 0, _, _ => .error (.ended .endInList)
  | n + 1, first, s => do
    match ← nextItem first s with
    | .done r => return ([], r)
    | .more s =>
      let (a, s) ← item s
      let (as, r) ← readItems item n false s
      return (a :: as, r)

/-- The members of an object after its opening brace, each handed with its name to `member`, which
reads from the colon on. -/
def readMembers {σ : Type} (member : String → σ → Reader σ) : Nat → Bool → σ → Reader σ
  | 0, _, _, _ => .error (.ended .endInObject)
  | n + 1, first, state, s => do
    match ← nextName first s with
    | .done r => return (state, r)
    | .more s =>
      let (name, s) ← scanString s
      let (state, s) ← member (String.ofList name) state s
      readMembers member n false state s

def readArray {α : Type} (item : Reader α) : Reader (List α) := fun s =>
  match skipSpace s with
  | '[' :: s => readItems item (s.length + 1) true s
  | s => .error (mismatch "a sequence" s)

def readMap {α : Type} (value : Reader α) : Reader (Dictionary α) := fun s =>
  match skipSpace s with
  | '\x7b' :: s =>
    readMembers (fun name d s => do
      let s ← scanColon s
      let (a, s) ← value s
      return (d.insert name a, s)) (s.length + 1) true Dictionary.empty s
  | s => .error (mismatch "a map" s)

def readPair {α β : Type} (left : Reader α) (right : Reader β) : Reader (α × β) := fun s =>
  let expected := "a tuple of size 2"
  match skipSpace s with
  | '[' :: s => do
    match ← nextItem true s with
    | .done r => .error (.before (.wrongLength 0 expected) r)
    | .more s =>
      let (a, s) ← left s
      match ← nextItem false s with
      | .done r => .error (.before (.wrongLength 1 expected) r)
      | .more s =>
        let (b, s) ← right s
        let s ← endItems s
        return ((a, b), s)
  | s => .error (mismatch expected s)

def embeddingName : String :=
  "$serde_json::private::RawValue"

/-- Arrays and objects may be nested one less deep than this. -/
def depthLimit : Nat := 128

def readAlone {α : Type} (read : Reader α) (s : List Char) : Except Stop α := do
  let (a, r) ← read s
  match skipSpace r with
  | [] => return a
  | r => .error (.met .trailingText r)

def whole {α : Type} (read : Reader α) (text : String) : Except Flaw α :=
  match readAlone read text.toList with
  | .ok a => .ok a
  | .error stop => .error (stop.locate text)

def embedded {α : Type} (read : Reader α) (text : String) : Except Stop α :=
  match whole read text with
  | .ok a => .ok a
  | .error flaw => .error ⟨flaw.fault, .inside flaw.position⟩

/-- Any value, with `depth` levels of nesting left. The count bounds all texts read, that of the
value and those embedded in it. -/
def readValueAt : Nat → Nat → Reader Value
  | 0, _, _ => .error (.ended .endInValue)
  | n + 1, depth, s =>
    match skipSpace s with
    | [] => .error (.ended .endInValue)
    | c :: s =>
      if c = 'n' then (scanWord ['u', 'l', 'l'] s).map fun r => (.null, r)
      else if c = 't' then (scanWord ['r', 'u', 'e'] s).map fun r => (.bool true, r)
      else if c = 'f' then (scanWord ['a', 'l', 's', 'e'] s).map fun r => (.bool false, r)
      else if startsNumber c then (readNumber (c :: s)).map fun (n, r) => (.number n, r)
      else if c = '"' then (scanString s).map fun (cs, r) => (.string (String.ofList cs), r)
      else if c = '[' then
        if depth ≤ 1 then .error (.met .tooDeep (c :: s))
        else (readItems (readValueAt n (depth - 1)) n true s).map fun (vs, r) => (.array vs, r)
      else if c = '\x7b' then
        if depth ≤ 1 then .error (.met .tooDeep (c :: s))
        else do
          match ← nextName true s with
          | .done r => return (.object [], r)
          | .more s =>
            let (name, s) ← scanString s
            let name := String.ofList name
            let s ← scanColon s
            if name = embeddingName then
              let (text, s) ← readStringAs "raw value" s
              let v ← embedded (readValueAt n depthLimit) text
              let s ← endMembers s
              return (v, s)
            else
              let (v, s) ← readValueAt n (depth - 1) s
              let (members, r) ← readMembers (fun name members s => do
                let s ← scanColon s
                let (v, s) ← readValueAt n (depth - 1) s
                return (insertSorted name v members, s)) n false [(name, v)] s
              return (.object members, r)
      else .error (.met .noValue (c :: s))

def readValue : Reader Value := fun s =>
  readValueAt (s.length + 1) depthLimit s

def readRawText : Reader String := fun s =>
  (readRaw s).map fun (cs, r) => (String.ofList cs, r)

end OneShot.Json
