import Trellis.Routing.Path
import Trellis.Text.Blank
import Trellis.Text.Quoted
/-!
The configuration of an application. Base paths are kept clean: without one the text is empty, else it is a
normalized path.
-/

namespace Trellis

/-- Why there is no configuration. -/
inductive ConfigError
  | unreadable (path reason : String)
  | illFormed (reason : String)
  | invalidValue (key value : String)
  | missingVariable
deriving DecidableEq, Repr

def ConfigError.message : ConfigError → String
  | .unreadable path reason => s!"Failed to read {path}: {reason}"
  | .illFormed reason => s!"Failed to parse configuration: {reason}"
  | .invalidValue key value => s!"Invalid value for {key}: {value}"
  | .missingVariable => "Environment variable error: environment variable not found"

/-- How the application runs. While developing, answers to unknown paths carry suggestions and late
routes are warned about. -/
inductive Mode
  | development
  | production
deriving DecidableEq, Repr

namespace Mode

def isDevelopment (m : Mode) : Bool := m = .development

def label : Mode → String
  | .development => "Development"
  | .production => "Production"

/-- Read a mode, in full or in short, in any letter case and with blanks around it. -/
def parse (text : String) : Except ConfigError Mode :=
  match Text.lowerAscii (Text.trim text) with
  | "development" | "dev" => .ok .development
  | "production" | "prod" => .ok .production
  | _ => .error (.invalidValue "env" text)

end Mode

structure AppConfig where
  /-- The path below which the application lives; empty for the root. -/
  basePath : String
  mode : Mode
  /-- Whether a known path with a wrong method is answered as such. -/
  strictMethods : Bool
  /-- Whether to warn about routes registered after compiling; by default while developing. -/
  warnLateRoutes : Option Bool
deriving DecidableEq, Repr

namespace AppConfig

/-- The configuration without any settings. -/
def standard : AppConfig := ⟨"", .development, false, none⟩

/-- The normalized path, or nothing for the root. -/
def cleanBasePath (raw : String) : String :=
  let path := Path.normalize raw
  if path = "/" then "" else path

def withBasePath (c : AppConfig) (raw : String) : AppConfig :=
  { c with basePath := cleanBasePath raw }

def withMode (c : AppConfig) (mode : Mode) : AppConfig := { c with mode }

def withStrictMethods (c : AppConfig) (strictMethods : Bool) : AppConfig :=
  { c with strictMethods }

def withWarnLateRoutes (c : AppConfig) (warn : Bool) : AppConfig :=
  { c with warnLateRoutes := some warn }

def warnsLateRoutes (c : AppConfig) : Bool := c.warnLateRoutes.getD c.mode.isDevelopment

def boolText (b : Bool) : String := if b then "true" else "false"

/-- The configuration as diagnostics show it. -/
def debug (c : AppConfig) : String :=
  let warn := match c.warnLateRoutes with
    | none => "None"
    | some b => "Some(" ++ boolText b ++ ")"
  "AppConfig \x7b base_path: " ++ Text.quoted c.basePath ++ ", mode: " ++ c.mode.label ++
    ", strict_methods: " ++ boolText c.strictMethods ++ ", warn_late_routes: " ++ warn ++ " \x7d"

end AppConfig

end Trellis
