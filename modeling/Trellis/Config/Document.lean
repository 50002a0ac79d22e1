import Trellis.Config.Basic
import Trellis.Toml.Reader
/-!
Configuration from a TOML document. Unknown keys do not count; known ones must have the right type.
-/

namespace Trellis.AppConfig

def wrongType (key : String) : ConfigError := .illFormed ("wrong type for " ++ key)

def modeName (name : String) : Except ConfigError Mode :=
  match name with
  | "development" => .ok .development
  | "production" => .ok .production
  | _ => .error (.illFormed ("unknown mode " ++ name))

/-- A mode by its name, which may also be the only key of a table, over something empty. -/
def modeOf : Toml → Except ConfigError Mode
  | .string name => modeName name
  | .table _ [(name, .table _ [])] | .table _ [(name, .array [])] => modeName name
  | _ => .error (wrongType "mode")

def boolOf (key : String) : Toml → Except ConfigError Bool
  | .bool value => .ok value
  | _ => .error (wrongType key)

/-- Change a configuration by one entry. -/
def setEntry (c : AppConfig) (entry : String × Toml) : Except ConfigError AppConfig :=
  match entry with
  | ("base_path", .string raw) => .ok (c.withBasePath raw)
  | ("base_path", _) => .error (wrongType "base_path")
  | ("mode", value) => (modeOf value).map c.withMode
  | ("strict_methods", value) => (boolOf "strict_methods" value).map c.withStrictMethods
  | ("warn_late_routes", value) => (boolOf "warn_late_routes" value).map c.withWarnLateRoutes
  | _ => .ok c

/-- The configuration that a document gives. -/
def ofToml (text : String) : Except ConfigError AppConfig :=
  match Toml.read? text with
  | none => .error (.illFormed "no TOML document")
  | some entries => entries.foldlM setEntry standard

end Trellis.AppConfig
