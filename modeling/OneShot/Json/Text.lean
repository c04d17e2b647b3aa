import OneShot.Numeral.Real

/-! The written form of JSON: quoted strings, arrays and objects, compact or over several lines.
Pieces are written before the whole, so that every piece is a text of its own. -/

namespace OneShot.Json

def hexDigit (n : Nat) : Char :=
  Nat.digitChar n

def escape (c : Char) : List Char :=
  if c = '"' then ['\\', '"']
  else if c = '\\' then ['\\', '\\']
  else if c = '\x08' then ['\\', 'b']
  else if c = '\x0c' then ['\\', 'f']
  else if c = '\n' then ['\\', 'n']
  else if c = '\r' then ['\\', 'r']
  else if c = '\t' then ['\\', 't']
  else if c.toNat < 0x20 then
    ['\\', 'u', '0', '0', hexDigit (c.toNat / 16), hexDigit (c.toNat % 16)]
  else [c]

def quote (s : String) : List Char :=
  '"' :: s.toList.flatMap escape ++ ['"']

def commas : List (List Char) → List Char
  | [] => []
  | [p] => p
  | p :: ps => p ++ ',' :: commas ps

def arrayText (items : List (List Char)) : List Char :=
  '[' :: commas items ++ [']']

def memberText (name : String) (value : List Char) : List Char :=
  quote name ++ ':' :: value

def objectText (members : List (List Char)) : List Char :=
  '\x7b' :: commas members ++ ['\x7d']

def newline (level : Nat) : List Char :=
  '\n' :: List.replicate (2 * level) ' '

/-- An object over several lines, one member to a line, whose braces stand at the given level. -/
def objectLines (level : Nat) (members : List (String × List Char)) : List Char :=
  '\x7b' :: commas (members.map fun (name, value) =>
    newline (level + 1) ++ quote name ++ ':' :: ' ' :: value) ++ newline level ++ ['\x7d']

end OneShot.Json
