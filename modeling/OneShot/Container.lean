import OneShot.BeanStore
import OneShot.Decoder
import OneShot.Exit

/-! The container of an invocation: the kinds of beans that invocations use and hosts add, and what an
invocation takes from them. -/

namespace OneShot

inductive BeanKind
  | conversions
  | codecs
  | functions
  | config
  | greeting
  | number
  | handler
  deriving DecidableEq, Repr

namespace BeanKind

def all : List BeanKind :=
  [conversions, codecs, functions, config, greeting, number, handler]

@[reducible] def Val : BeanKind → Type
  | conversions => ConversionTable
  | codecs => CodecRegistry
  | functions => FunctionRegistry
  | config => Config
  | greeting => String
  | number => IntKind.i64.Num
  | handler => ExitHandler

def typeName : BeanKind → String
  | conversions => "fnrun::convert::ConversionService"
  | codecs => "fnrun::codec::CodecRegistry"
  | functions => "fnrun::registry::FunctionRegistry"
  | config => "fnrun::config::FunctionConfig"
  | greeting => "fnrun::types::Greeting"
  | number => "i64"
  | handler => "alloc::sync::Arc<dyn fnrun::exit::ExitHandler>"

theorem number_bounds (n : IntKind.i64.Num) :
    -(1 <<< 63 : Nat) ≤ n.val ∧ n.val < (1 <<< 64 : Nat) := by
  have h := n.property
  simp only [IntKind.lo, IntKind.hi, IntKind.signed, IntKind.bits] at h
  omega

def describe : (k : BeanKind) → k.Val → Json.Value
  | conversions, _ => .string "conversions"
  | codecs, r => .array (r.mediaTypes.map fun m => .string m.display)
  | functions, r => .array (r.names.map .string)
  | config, c => .string (DataType.toJson .config c)
  | greeting, s => .string s
  | number, n => .number (.int n.val (number_bounds n).1 (number_bounds n).2)
  | handler, h => (h.answer .success).describe

/-- The calls that are kept when a bean shows itself: a handler is asked what it answers to success. -/
def keptCalls : (k : BeanKind) → k.Val → List ExitCall
  | handler, h => h.kept .success
  | _, _ => []

end BeanKind

instance : KindName BeanKind := ⟨BeanKind.typeName⟩

abbrev Container := BeanStore BeanKind BeanKind.Val

namespace Container

def empty : Container := BeanStore.empty

def withConfig (config : Config) : Container :=
  (((empty.register .conversions .standard).register .codecs .standard).register
    .functions .empty).register .config config

def standard : Container :=
  withConfig .standard

def beanNames (c : Container) : List String :=
  ((BeanKind.all.filter fun k => (c.bean? k).isSome).map BeanKind.typeName).mergeSort
    fun a b => decide (a ≤ b)

def detail (c : Container) : String :=
  "BeanContext \x7b state: " ++ c.phase.name ++ ", beans: [" ++
    String.intercalate ", " (c.beanNames.map quoted) ++ "] \x7d"

def decoder (c : Container) : Except Fault Decoder := do
  let conversions ← c.get .conversions
  let codecs ← c.get .codecs
  return ⟨conversions, codecs⟩

def exitHandler (c : Container) : ExitHandler :=
  match c.find? .handler with
  | some handler => handler
  | none => .ofCodes ((c.find? .config).getD .standard).exitCodes .standardError

end Container

abbrev Target := Recipient BeanKind BeanKind.Val

namespace Recipient

def new (needs : List BeanKind) : Target :=
  ⟨needs, none, 0, []⟩

def keptCalls (target : Recipient BeanKind BeanKind.Val) : List ExitCall :=
  target.found.flatMap fun ⟨k, v⟩ => k.keptCalls v

end Recipient

end OneShot
