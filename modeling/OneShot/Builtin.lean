import OneShot.Invocation
import OneShot.Text.Upper

/-! The functions that the command line hosts. -/

namespace OneShot

structure Builtin where
  name : String
  media : MediaType
  input : DataType
  output : DataType
  function : Function input output

namespace Builtin

def echo : Function .raw .raw := .done

def increment : Function (.int .i64) (.int .i64) := fun n =>
  match IntKind.i64.ofInt? (n.val + 1) with
  | some m => .done m
  | none =>
    .failed (.function (.plain (IntKind.i64.render n ++ " + 1 overflows a 64-bit integer")))

/-- A greeting for a name, which may not be blank. -/
def greet : Function .greetRequest .greeting := fun request =>
  let name := trim request.name
  if name.isEmpty then .failed (.function (.plain "name must not be empty"))
  else .done ⟨"Hello, " ++ name ++ "!"⟩

def shout : Function .string .string := fun s => .done (upper s)

def all : List Builtin := [
  ⟨"echo", .json, _, _, echo⟩,
  ⟨"increment", .json, _, _, increment⟩,
  ⟨"greet", .json, _, _, greet⟩,
  ⟨"shout", .text, _, _, shout⟩]

def find? (name : String) : Option Builtin :=
  all.find? fun b => b.name == name

def registry : FunctionRegistry :=
  all.foldl (fun r b => r.register ⟨b.name, b.media⟩) .empty

end Builtin

end OneShot
