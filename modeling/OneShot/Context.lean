import OneShot.Decoder

/-! What one call of a function knows of its input: the payload as it came, and whether diagnostics
are to be full. Nothing is decoded before a value is asked for. -/

namespace OneShot

structure Context where
  raw : Option String
  debug : Bool
  decoder : Decoder

namespace Context

def ofArguments (args : Arguments) (decoder : Decoder) : Context :=
  ⟨args.data, args.debug, decoder⟩

def parse (argv : List ByteArray) (decoder : Decoder) : Except Fault Context :=
  match Arguments.parse argv with
  | .ok args => .ok (ofArguments args decoder)
  | .error fault => .error (.arguments fault)

def hasData (c : Context) : Bool :=
  c.raw.isSome

/-- The payload as a value. Without a payload nothing is decoded. -/
def get (c : Context) (t : DataType) : Except Fault t.Val :=
  match c.raw with
  | none => .error .noData
  | some data => c.decoder.decode t data

def getOptional (c : Context) (t : DataType) : Except Fault (Option t.Val) :=
  match c.raw with
  | none => .ok none
  | some data => (c.decoder.decode t data).map some

/-- The head of the full form, up to the identity of the invocation. -/
def detail (c : Context) : String :=
  "InvocationContext \x7b raw_payload: " ++
    (match c.raw with
      | none => "None"
      | some data => "Some(" ++ quoted data ++ ")") ++
    ", debug: " ++ (if c.debug then "true" else "false")

end Context

end OneShot
