import OneShot.Arguments
import OneShot.Fault.Config
import OneShot.Fault.Io

/-! Everything that can go wrong with an invocation or its container, as causes. The wording is in one
place, so that a fault is told apart by its constructor and shown by its message. -/

namespace OneShot

inductive Phase
  | created
  | running
  | closed
  deriving DecidableEq, Repr

def Phase.name : Phase → String
  | created => "Created"
  | running => "Running"
  | closed => "Closed"

inductive ContainerFault
  | cannotStart (phase : Phase)
  | alreadyClosed
  | cannotInject
  | other (text : String)

def ContainerFault.text : ContainerFault → String
  | cannotStart phase => "cannot start a container in state " ++ phase.name
  | alreadyClosed => "container already closed"
  | cannotInject => "cannot inject from a closed container"
  | other text => text

/-- An error raised by a function: a text, or a chain of errors each caused by the next. -/
inductive FunctionFault
  | plain (text : String)
  | chain (text : String) (causes : List String)

def FunctionFault.text : FunctionFault → String
  | plain text => text
  | chain text _ => text

inductive Mismatch
  | noConverter
  | invalid (typeName : String)
  | noCodec (media : MediaType)
  | refused (message : String)

def Mismatch.text : Mismatch → String
  | noConverter => "no converter registered"
  | invalid typeName => "not a valid " ++ typeName
  | noCodec media => "no codec for " ++ media.display
  | refused message => message

inductive Fault
  | noData
  | unconvertible (data typeName : String) (reason : Option Mismatch)
  | function (fault : FunctionFault)
  | panicked (text : String)
  | arguments (fault : ArgumentFault)
  | codecNotFound (media : MediaType)
  | beanNotFound (typeName : String)
  | container (fault : ContainerFault)
  | config (fault : ConfigFault)
  | io (fault : IoFault)
  | serialization (flaw : Json.Flaw)

namespace Fault

def kind : Fault → String
  | noData => "no-data"
  | unconvertible .. => "unconvertible-value"
  | function _ => "function"
  | panicked _ => "panic"
  | arguments _ => "arguments"
  | codecNotFound _ => "codec-not-found"
  | beanNotFound _ => "bean-not-found"
  | container _ => "container"
  | config _ => "config"
  | io _ => "io"
  | serialization _ => "serialization"

def message : Fault → String
  | noData => "No data supplied to the function"
  | unconvertible data typeName _ =>
    "Passed data [" ++ data ++ "] cannot be converted to type: " ++ typeName
  | function fault => "Function failed: " ++ fault.text
  | panicked text => "Function panicked: " ++ text
  | arguments fault => "Invalid arguments: " ++ fault.message
  | codecNotFound media => "No codec registered for media type " ++ media.display
  | beanNotFound typeName => "No bean registered for type " ++ typeName
  | container fault => "Container error: " ++ fault.text
  | config fault => fault.message
  | io fault => "IO error: " ++ fault.message
  | serialization flaw => "Serialization error: " ++ flaw.message

def causes : Fault → List String
  | function (.plain text) => [text]
  | function (.chain text causes) => text :: causes
  | arguments fault => [fault.message]
  | io fault => [fault.message]
  | serialization flaw => [flaw.message]
  | _ => []

end Fault

end OneShot
