import OneShot.Json.Scan

/-! Reading past a value without keeping it. Any text of the JSON grammar passes, whatever its depth
and the size of its numbers. -/

namespace OneShot.Json

def skimItems (item : List Char → Except Stop (List Char)) :
    Nat → List Char → Except Stop (List Char)
  | 0, _ => .error (.ended .endInList)
  | n + 1, s => do
    let s ← item s
    match skipSpace s with
    | [] => .error (.ended .endInList)
    | ']' :: s => return s
    | ',' :: s => skimItems item n s
    | s => .error (.met .noListEnd s)

def skimMembers (item : List Char → Except Stop (List Char)) :
    Nat → List Char → Except Stop (List Char)
  | 0, _ => .error (.ended .endInObject)
  | n + 1, s =>
    match skipSpace s with
    | [] => .error (.ended .endInObject)
    | '"' :: s => do
      let s ← skimString s
      match skipSpace s with
      | [] => .error (.ended .endInObject)
      | ':' :: s =>
        let s ← item s
        match skipSpace s with
        | [] => .error (.ended .endInObject)
        | '\x7d' :: s => return s
        | ',' :: s => skimMembers item n s
        | s => .error (.met .noObjectEnd s)
      | s => .error (.met .noColon s)
    | s => .error (.met .keyNotString s)

/-- The text after a value. The count bounds the depth and the width of the value. -/
def skimValue : Nat → List Char → Except Stop (List Char)
  | 0, _ => .error (.ended .endInValue)
  | n + 1, s =>
    match skipSpace s with
    | [] => .error (.ended .endInValue)
    | c :: s =>
      if c = 'n' then scanWord ['u', 'l', 'l'] s
      else if c = 't' then scanWord ['r', 'u', 'e'] s
      else if c = 'f' then scanWord ['a', 'l', 's', 'e'] s
      else if c = '"' then skimString s
      else if c = '-' then (scanNumber .badNumber s).map Prod.snd
      else if c.isDigit then (scanNumber .badNumber (c :: s)).map Prod.snd
      else if c = '[' then
        match skipSpace s with
        | [] => .error (.ended .endInList)
        | ']' :: s => .ok s
        | s => skimItems (skimValue n) n s
      else if c = '\x7b' then
        match skipSpace s with
        | [] => .error (.ended .endInObject)
        | '\x7d' :: s => .ok s
        | s => skimMembers (skimValue n) n s
      else .error (.met .noValue (c :: s))

def skim (s : List Char) : Except Stop (List Char) :=
  skimValue (s.length + 1) s

/-- The text of a value as it stands, without the white space around it, and what follows it. -/
def readRaw : Reader (List Char) := fun s => do
  let s := skipSpace s
  let rest ← skim s
  return (s.take (s.length - rest.length), rest)

end OneShot.Json
