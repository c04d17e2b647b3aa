import OneShot.Builtin

/-! Functions and bodies to run: each shows one way in which an invocation can go. -/

namespace OneShot.Sample

def increment : Function (.int .i64) (.int .i64) := fun n =>
  match IntKind.i64.ofInt? (n.val + 1) with
  | some m => .done m
  | none => .failed (.function (.plain (IntKind.i64.render n ++ " + 1 overflows")))

def explode : Function (.int .i64) (.int .i64) := fun n =>
  .panicked (.text (if n.val < 0 then "negative input" else "exploded on " ++ IntKind.i64.render n))

def quit : Function .json .json := fun _ => .failed .noData

/-- Moves a point by one, around the end of the range. -/
def move : Function .point .shifted := fun p => .done ⟨IntKind.i32.wrapped (p.x.val + 1)⟩

def total : Function .ints (.int .i128) := fun ns =>
  .done (IntKind.i128.wrapped (ns.foldl (fun sum n => sum + n.val) 0))

def splitWords : Function .string .strings := fun s => .done (words s)

def refuse : Function .string .string := fun s =>
  .failed (.function (.plain ("refused " ++ s)))

def invert : Function .bool .bool := fun b => .done (!b)

def half : Function .f64 .f64 := fun x => .done (x / 2)

def silent : Function .string .unit := fun _ => .done ()

def tree : Function .json .json := .done

def ledger : Function .ledger .ledger := .done

def functions : List (String × (a : DataType) × (b : DataType) × Function a b) := [
  ("increment", ⟨_, _, increment⟩),
  ("explode", ⟨_, _, explode⟩),
  ("quit", ⟨_, _, quit⟩),
  ("move", ⟨_, _, move⟩),
  ("total", ⟨_, _, total⟩),
  ("words", ⟨_, _, splitWords⟩),
  ("refuse", ⟨_, _, refuse⟩),
  ("invert", ⟨_, _, invert⟩),
  ("half", ⟨_, _, half⟩),
  ("shout", ⟨_, _, Builtin.shout⟩),
  ("silent", ⟨_, _, silent⟩),
  ("echo", ⟨_, _, Builtin.echo⟩),
  ("tree", ⟨_, _, tree⟩),
  ("ledger", ⟨_, _, ledger⟩)]

def give {b : DataType} (v : b.Val) : Body b := fun _ => .done (some v)

def absent : Body .unit := fun _ => .done none

def get (t : DataType) : Body t := fun context =>
  (Outcome.ofExcept (context.get t)).bind fun v => .done (some v)

def getDiscard (t : DataType) : Body t := fun context =>
  (Outcome.ofExcept (context.get t)).bind fun _ => .done none

def getOptional (t : DataType) : Body t := fun context =>
  Outcome.ofExcept (context.getOptional t)

/-- The JSON text of the payload, or the payload itself if it is no value of the type. -/
def getEither (t : DataType) : Body .string := fun context =>
  match context.get t with
  | .ok v => .done (some (t.toJson v))
  | .error _ => (Outcome.ofExcept (context.get .string)).bind fun s => .done (some s)

def describe : Body .json := fun context =>
  let raw := match context.raw with
    | some data => Json.Value.string data
    | none => .null
  .done (some (.object [("debug", .bool context.debug), ("has_data", .bool context.hasData),
    ("raw", raw)]))

def fail (fault : Fault) : Body .unit := fun _ => .failed fault

def panicWith (panic : Panic) : Body .unit := fun _ => .panicked panic

end OneShot.Sample
