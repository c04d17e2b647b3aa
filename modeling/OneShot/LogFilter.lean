import OneShot.Fault.Config
import OneShot.Numeral.Real

/-! The filter of the log lines. It comes from the environment, else from the configuration, else from
the debug flag; a filter that cannot be read is reported.

A filter is a list of directives between commas. A directive is a level, or a target, a span or both
with an optional level: `target[span{field=value}]=level`. It is read without the white space
around it, but its parts are cut out of the text with that white space, at the offsets found in the
text without it. -/

namespace OneShot.LogFilter

/-- The filter used when the environment gives none. -/
def directive (filter : Option String) (debug : Bool) : String :=
  let fallback := if debug then "debug" else "warn"
  match filter with
  | some filter => if (strip isBlank filter.toList).isEmpty then fallback else filter
  | none => fallback

def levels : List String := ["off", "error", "warn", "info", "debug", "trace"]

/-- A level by name in any case, or by number. -/
def isLevel (s : List Char) : Bool :=
  let digits := match s with
    | '+' :: s => s
    | s => s
  match natural? digits with
  | some n => n < levels.length
  | none => levels.contains (String.ofList (s.map Char.toLower))

def checkLevel (s : List Char) : Except LogFilterFault Unit :=
  if s.isEmpty || isLevel s then .ok () else .error .badLevel

/-- The value that a field is to have: a truth value, a number or a pattern. -/
def checkValue (s : List Char) : Except LogFilterFault Unit :=
  if ["true", "false"].contains (String.ofList s) || (RealText.read? s).isSome then .ok ()
  else (Pattern.check s).mapError .badField

/-- A field: a name, and a value after an equals sign. What follows a second one does not count. -/
def checkField (s : List Char) : Except LogFilterFault Unit :=
  if s.isEmpty then .error .badDirective
  else match cutAt (fun c => c == '=') s with
    | _ :: value :: _ => checkValue value
    | _ => .ok ()

/-- The part of a directive that a character belongs to. Offsets are in bytes. -/
inductive Place
  | start
  | name
  | span
  | field (start : Nat)
  | afterField
  | afterSpan
  | level (start : Nat)

def dropBytes : Nat → List Char → Option (List Char)
  | 0, s => some s
  | _ + 1, [] => none
  | n + 1, c :: s => if c.utf8Size ≤ n + 1 then dropBytes (n + 1 - c.utf8Size) s else none

def takeBytes : Nat → List Char → Option (List Char)
  | 0, _ => some []
  | _ + 1, [] => none
  | n + 1, c :: s =>
    if c.utf8Size ≤ n + 1 then (takeBytes (n + 1 - c.utf8Size) s).map (c :: ·) else none

def sliceBytes (first last : Nat) (s : List Char) : Option (List Char) :=
  (dropBytes first s).bind (takeBytes (last - first))

def checkPart (check : List Char → Except LogFilterFault Unit) (part : Option (List Char)) :
    Except LogFilterFault Unit :=
  match part with
  | some s => check s
  | none => .error .badDirective

def Place.next (whole : List Char) (offset : Nat) (c : Char) :
    Place → Except LogFilterFault Place
  | start =>
    if c = '[' then .ok .span
    else if c = '-' ∨ c = ':' ∨ c = '_' ∨ isLetter c ∨ isNumeral c then .ok .name
    else .error .badDirective
  | name => .ok (if c = '=' then .level (offset + 1) else if c = '[' then .span else .name)
  | span => .ok (if c = ']' then .afterSpan else if c = '\x7b' then .field (offset + 1) else .span)
  | field first =>
    if c = '\x7d' then
      (checkPart checkField (sliceBytes first offset whole)).map fun () => .afterField
    else .ok (.field first)
  | afterField => if c = ']' then .ok .afterSpan else .error .badDirective
  | afterSpan => if c = '=' then .ok (.level (offset + 1)) else .error .badDirective
  | level first => .ok (.level first)

def placeAfter (whole : List Char) : Nat → Place → List Char → Except LogFilterFault Place
  | _, place, [] => .ok place
  | offset, place, c :: s => do
    let place ← place.next whole offset c
    placeAfter whole (offset + c.utf8Size) place s

def checkDirective (s : List Char) : Except LogFilterFault Unit := do
  match ← placeAfter s 0 .start (strip isBlank s) with
  | .name | .afterSpan => return ()
  | .level first => checkPart checkLevel (dropBytes first s)
  | _ => throw .badDirective

/-- Checks the directives of a filter from left to right. Empty ones do not count. -/
def check (filter : String) : Except LogFilterFault Unit :=
  (cutAt (fun c => c == ',') filter.toList).forM fun s =>
    if s.isEmpty then .ok () else checkDirective s

def warning? (environment filter : Option String) (debug : Bool) : Option ConfigFault :=
  let usable := match environment with
    | some given => (check given).isOk
    | none => false
  if usable then none
  else
    let chosen := directive filter debug
    match check chosen with
    | .ok () => none
    | .error fault => some (.logFilter chosen fault)

end OneShot.LogFilter
