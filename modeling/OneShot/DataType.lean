import OneShot.Config
import OneShot.Registry
import OneShot.Sample.Data

/-! The types of payloads and results. A type is a code; its values, its name, and its JSON reading and
writing are functions of the code. -/

namespace OneShot

inductive DataType
  | string
  | bool
  | char
  | int (k : IntKind)
  | f32
  | f64
  | point
  | ledger
  | tag
  | ints
  | floats
  | strings
  | map
  | option
  | pair
  | unit
  | json
  | raw
  | mediaType
  | exitCodes
  | config
  | registration
  | shifted
  | greetRequest
  | greeting
  | address
  /-- Any other type of the host, by its name. Its values are read and written as JSON values. -/
  | named (name : String)
  deriving DecidableEq, Repr

structure RawJson where
  text : String
  deriving DecidableEq

namespace DataType

@[reducible] def Val : DataType → Type
  | string => String
  | bool => Bool
  | char => Char
  | int k => k.Num
  | f32 => Float32
  | f64 => Float
  | point => Point
  | ledger => Ledger
  | tag => Tag
  | ints => List IntKind.i64.Num
  | floats => List Float
  | strings => List String
  | map => Dictionary IntKind.i64.Num
  | option => Option IntKind.i64.Num
  | pair => IntKind.i64.Num × String
  | unit => Unit
  | json => Json.Value
  | raw => RawJson
  | mediaType => MediaType
  | exitCodes => ExitCodes
  | config => Config
  | registration => Registration
  | shifted => Shifted
  | greetRequest => GreetRequest
  | greeting => Greeting
  | address => Address
  | named _ => Json.Value

def name : DataType → String
  | string => "alloc::string::String"
  | bool => "bool"
  | char => "char"
  | int k => k.name
  | f32 => "f32"
  | f64 => "f64"
  | point => "fnrun::types::Point"
  | ledger => "fnrun::types::Ledger"
  | tag => "fnrun::types::Tag"
  | ints => "alloc::vec::Vec<i64>"
  | floats => "alloc::vec::Vec<f64>"
  | strings => "alloc::vec::Vec<alloc::string::String>"
  | map => "alloc::collections::btree::map::BTreeMap<alloc::string::String, i64>"
  | option => "core::option::Option<i64>"
  | pair => "(i64, alloc::string::String)"
  | unit => "()"
  | json => "serde_json::value::Value"
  | raw => "alloc::boxed::Box<serde_json::raw::RawValue>"
  | mediaType => "fnrun::codec::MediaType"
  | exitCodes => "fnrun::config::ExitCodes"
  | config => "fnrun::config::FunctionConfig"
  | registration => "fnrun::registry::FunctionRegistration"
  | shifted => "fnrun::types::Shifted"
  | greetRequest => "fnrun::cli::builtins::GreetRequest"
  | greeting => "fnrun::cli::builtins::Greeting"
  | address => "core::net::ip_addr::Ipv4Addr"
  | named name => name

def read : (t : DataType) → Json.Reader t.Val
  | string => Json.readString
  | bool => Json.readBool
  | char => Json.readChar
  | int k => Json.readInt k
  | f32 => Json.readFloat32
  | f64 => Json.readFloat
  | point => Point.record.read
  | ledger => Ledger.record.read
  | tag => Tag.readJson
  | ints => Json.readArray (Json.readInt .i64)
  | floats => Json.readArray Json.readFloat
  | strings => Json.readArray Json.readString
  | map => Json.readMap (Json.readInt .i64)
  | option => Json.readOption (Json.readInt .i64)
  | pair => Json.readPair (Json.readInt .i64) Json.readString
  | unit => Json.readUnit
  | json => Json.readValue
  | raw => fun s => (Json.readRawText s).map fun (text, r) => (⟨text⟩, r)
  | mediaType => MediaType.readJson
  | exitCodes => ExitCodes.record.read
  | config => Config.record.read
  | registration => Registration.record.read
  | shifted => Shifted.record.read
  | greetRequest => GreetRequest.record.read
  | greeting => Greeting.record.read
  | address => Address.readJson
  | named _ => Json.readValue

def write : (t : DataType) → t.Val → List Char
  | string, s => Json.quote s
  | bool, b => Json.boolText b
  | char, c => Json.quote (String.singleton c)
  | int _, n => decimalInt n.val
  | f32, x => (Encoded.ofFloat32 x).json .binary32 .single
  | f64, x => Json.realText x
  | point, p => p.write
  | ledger, l => l.write
  | tag, t => Json.quote t.text
  | ints, ns => Json.arrayText (ns.map fun n => decimalInt n.val)
  | floats, xs => Json.arrayText (xs.map Json.realText)
  | strings, ss => Json.arrayText (ss.map Json.quote)
  | map, d => Json.objectText (d.entries.map fun e => Json.memberText e.1 (decimalInt e.2.val))
  | option, none => Json.nullText
  | option, some n => decimalInt n.val
  | pair, (n, s) => Json.arrayText [decimalInt n.val, Json.quote s]
  | unit, () => Json.nullText
  | json, v => v.write
  | raw, r => r.text.toList
  | mediaType, m => m.writeJson
  | exitCodes, c => c.write
  | config, c => c.write
  | registration, r => r.write
  | shifted, s => s.write
  | greetRequest, r => r.write
  | greeting, g => g.write
  | address, x => Json.quote x.render
  | named _, v => v.write

def ofJson (t : DataType) (text : String) : Except Json.Flaw t.Val :=
  Json.whole t.read text

def toJson (t : DataType) (v : t.Val) : String :=
  String.ofList (t.write v)

end DataType

end OneShot
