import OneShot.ExitCodes
import OneShot.MediaType
import OneShot.Pattern

/-! Faults of configuration: media types, exit codes, the name of the function, the log filter, and
codecs that refuse. -/

namespace OneShot

inductive LogFilterFault
  | badLevel
  | badDirective
  | badField (fault : PatternFault)

def LogFilterFault.message : LogFilterFault → String
  | badLevel =>
    "error parsing level filter: expected one of \"off\", \"error\", \"warn\", " ++
      "\"info\", \"debug\", \"trace\", or a number 0-5"
  | badDirective => "invalid filter directive"
  | badField fault => "invalid field filter: " ++ fault.message

inductive ConfigFault
  | mediaType (fault : MediaType.Fault)
  | exitCodes (fault : ExitCodes.Fault)
  | unknownFunction (name : String)
  | logFilter (filter : String) (fault : LogFilterFault)
  | unreadable (data : String)
  | unwritable (json : String)
  | other (text : String)

/-- What is wrong, without the class of the fault. -/
def ConfigFault.text : ConfigFault → String
  | mediaType fault => fault.message
  | exitCodes fault => fault.message
  | unknownFunction name =>
    "unknown function '" ++ name ++ "', set FNRUN_FUNCTION or function_name in function.json"
  | logFilter filter fault => "invalid log filter '" ++ filter ++ "': " ++ fault.message
  | unreadable data => "cannot read " ++ data
  | unwritable json => "cannot write " ++ json
  | other text => text

def ConfigFault.message (fault : ConfigFault) : String :=
  "Config error: " ++ fault.text

end OneShot
