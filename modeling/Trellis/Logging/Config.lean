import Trellis.Config.Basic
import Trellis.Error
import Trellis.Logging.Event
import Trellis.Logging.Filter
/-!
The configuration of logging.
-/

namespace Trellis

inductive LogFormat
  | json
  | plain
  | pretty
  | compact
deriving DecidableEq, Repr

namespace LogFormat

def all : List LogFormat := [json, plain, pretty, compact]

def label : LogFormat → String
  | json => "Json"
  | plain => "Plain"
  | pretty => "Pretty"
  | compact => "Compact"

end LogFormat

inductive LogOutput
  | stdout
  | stderr
  | file (path : String)
deriving DecidableEq, Repr

def LogOutput.debug : LogOutput → String
  | .stdout => "Stdout"
  | .stderr => "Stderr"
  | .file path => "File(" ++ Text.quoted path ++ ")"

structure LogConfig where
  level : LogLevel
  format : LogFormat
  output : LogOutput
  timestamps : Bool
  threadIds : Bool
  targets : Bool
  fileLine : Bool
  spans : Bool
  colors : Bool
  /-- The filter that takes the place of the level. -/
  filter : Option String
deriving DecidableEq, Repr

namespace LogConfig

/-- JSON to the standard output at the level of information. -/
def standard : LogConfig :=
  ⟨.info, .json, .stdout, true, false, true, false, false, false, none⟩

/-- While developing, colourful text in several lines from the debug level on. -/
def ofMode : Mode → LogConfig
  | .development => { standard with level := .debug, format := .pretty, colors := true }
  | .production => standard

/-- Check the filter. -/
def checkFilter (c : LogConfig) : Except Error Unit :=
  match c.filter with
  | none => .ok ()
  | some text =>
    if LogFilter.isValid text then .ok ()
    else .error (.fault .internal "invalid log filter: invalid filter directive")

/-- The configuration as diagnostics show it. -/
def debug (c : LogConfig) : String :=
  let flag := AppConfig.boolText
  let filter := match c.filter with
    | none => "None"
    | some text => "Some(" ++ Text.quoted text ++ ")"
  "LogConfig \x7b level: " ++ c.level.label ++ ", format: " ++ c.format.label ++ ", output: " ++
    c.output.debug ++ ", timestamps: " ++ flag c.timestamps ++ ", thread_ids: " ++
    flag c.threadIds ++ ", targets: " ++ flag c.targets ++ ", file_line: " ++ flag c.fileLine ++
    ", spans: " ++ flag c.spans ++ ", colors: " ++ flag c.colors ++ ", env_filter: " ++ filter ++
    " \x7d"

end LogConfig

end Trellis
