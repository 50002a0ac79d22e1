/-!
Log events: a level, a message, and fields.
-/

namespace Trellis

inductive LogLevel
  | trace
  | debug
  | info
  | warn
  | error
deriving DecidableEq, Repr

namespace LogLevel

def all : List LogLevel := [trace, debug, info, warn, error]

/-- The level in capitals. -/
def upperName : LogLevel → String
  | trace => "TRACE"
  | debug => "DEBUG"
  | info => "INFO"
  | warn => "WARN"
  | error => "ERROR"

def name : LogLevel → String
  | trace => "trace"
  | debug => "debug"
  | info => "info"
  | warn => "warn"
  | error => "error"

/-- The level as diagnostics show it. -/
def label : LogLevel → String
  | trace => "Trace"
  | debug => "Debug"
  | info => "Info"
  | warn => "Warn"
  | error => "Error"

end LogLevel

structure Event where
  level : LogLevel
  message : String
  fields : List (String × String)
deriving DecidableEq, Repr

/-- The event on one line: level, message, and each field with its value. -/
def Event.render (e : Event) : String :=
  " ".intercalate
    (e.level.upperName :: e.message :: e.fields.map fun field => field.1 ++ "=" ++ field.2)

end Trellis
