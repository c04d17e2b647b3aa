/-! Terminal escape sequences, and the text that is left without them. A sequence starts with an escape
and goes on until a character that ends its kind; a control that is no white space shows nothing. White
space shows even inside some sequences and breaks them off, so that what follows is plain again. -/

namespace OneShot.Escapes

inductive State
  | plain
  | escape
  | intermediate
  /-- After an escape and `[`, up to a final character. -/
  | control
  /-- After an escape and `]`, up to a bell. -/
  | command
  | device
  | deviceParameters
  | deviceIntermediate
  /-- In the text of a device string or of another string, up to a string terminator. -/
  | data
  deriving DecidableEq, Repr

def within (first last : Nat) (c : Char) : Bool :=
  first ≤ c.toNat && c.toNat ≤ last

def afterEscape (c : Char) : State :=
  match c with
  | '[' => .control
  | ']' => .command
  | 'P' => .device
  | 'X' | '^' | '_' => .data
  | c =>
    if within 0x20 0x2F c then .intermediate
    else if within 0x30 0x7E c then .plain
    else .escape

def next (state : State) (c : Char) : State :=
  if c = '\x1b' then .escape
  else if c = '\x18' ∨ c = '\x1a' then .plain
  else match state with
    | .plain => .plain
    | .escape => afterEscape c
    | .intermediate => if within 0x30 0x7E c then .plain else .intermediate
    | .control => if within 0x40 0x7E c then .plain else .control
    | .command => if c = '\x07' then .plain else .command
    | .device =>
      if within 0x20 0x2F c then .deviceIntermediate
      else if within 0x30 0x3F c then .deviceParameters
      else if within 0x40 0x7E c then .data
      else .device
    | .deviceParameters =>
      if within 0x20 0x2F c then .deviceIntermediate
      else if within 0x3C 0x7E c then .data
      else .deviceParameters
    | .deviceIntermediate => if within 0x30 0x7E c then .data else .deviceIntermediate
    | .data => .data

/-- Where a character beyond ASCII that is not shown leads. Its encoding may hold the byte of the string
terminator, which ends a string. -/
def nextWide (state : State) (c : Char) : State :=
  if state = .data ∧ (String.utf8EncodeChar c).contains 0x9C then .plain else state

def isSpacing (c : Char) : Bool :=
  c == '\t' || c == '\n' || c == '\x0c' || c == '\r'

def isShown (state : State) (c : Char) : Bool :=
  match state with
  | .plain => within 0x20 0x7E c || 0x80 ≤ c.toNat || isSpacing c
  | .escape | .intermediate | .control => isSpacing c
  | .command | .device | .deviceParameters | .deviceIntermediate | .data => false

def stripFrom (state : State) : List Char → List Char
  | [] => []
  | c :: s =>
    if isShown state c then c :: stripFrom .plain s
    else stripFrom (if c.toNat < 0x80 then next state c else nextWide state c) s

def strip (s : List Char) : List Char :=
  stripFrom .plain s

def visible (s : String) : String :=
  String.ofList (strip s.toList)

end OneShot.Escapes
