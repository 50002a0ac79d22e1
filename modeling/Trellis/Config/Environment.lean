import Trellis.Config.Basic
import Trellis.KeyMap
import Trellis.Text.Case
/-!
Configuration from environment variables. A loader may have a prefix: then it sees only the variables whose
name is the prefix, an underscore and a key, and keys are in lowercase.
-/

namespace Trellis

/-- The variables of a process with their values, in the order in which they were first set. -/
structure Environment where
  settings : List (String × String)
deriving Repr

namespace Environment

def get? (env : Environment) (name : String) : Option String :=
  (env.settings.find? fun entry => entry.1 = name).map (·.2)

/-- Set a variable. One that is there keeps its place. -/
def set (env : Environment) (name value : String) : Environment :=
  if (env.get? name).isNone then ⟨env.settings ++ [(name, value)]⟩
  else ⟨env.settings.map fun entry => if entry.1 = name then (name, value) else entry⟩

/-- Set variables one after the other. -/
def ofList (settings : List (String × String)) : Environment :=
  settings.foldl (fun env setting => env.set setting.1 setting.2) ⟨[]⟩

end Environment

structure EnvLoader where
  lead : Option String

namespace EnvLoader

/-- The key of a variable, if the loader sees it. -/
def key? (loader : EnvLoader) (name : String) : Option String :=
  match loader.lead with
  | none => some (Text.lower name)
  | some lead =>
    let start := lead.toList ++ ['_']
    if start.isPrefixOf name.toList then
      some (Text.lower (String.ofList (name.toList.drop start.length)))
    else none

/-- All variables that the loader sees, by key. Of several with one key the last one counts. -/
def load (loader : EnvLoader) (env : Environment) : KeyMap String :=
  KeyMap.ofList (env.settings.filterMap fun entry =>
    (loader.key? entry.1).map fun key => (key, entry.2))

/-- The name of the variable for a key. -/
def variableName (loader : EnvLoader) (key : String) : String :=
  match loader.lead with
  | none => Text.upper key
  | some lead => lead ++ "_" ++ Text.upper key

/-- The value of one variable. -/
def loadVar (loader : EnvLoader) (env : Environment) (key : String) : Except ConfigError String :=
  match env.get? (loader.variableName key) with
  | some value => .ok value
  | none => .error .missingVariable

/-- The value of one variable, or the one to fall back on. -/
def loadVarOr (loader : EnvLoader) (env : Environment) (key fallback : String) : String :=
  match loader.loadVar env key with
  | .ok value => value
  | .error _ => fallback

end EnvLoader

namespace AppConfig

/-- Read a truth value, in one of several spellings, in any letter case and with blanks around it. -/
def parseBool (key text : String) : Except ConfigError Bool :=
  match Text.lowerAscii (Text.trim text) with
  | "1" | "true" | "yes" | "on" => .ok true
  | "0" | "false" | "no" | "off" => .ok false
  | _ => .error (.invalidValue key text)

/-- Change a configuration by the value of a key, if there is one. -/
def setFrom (vars : KeyMap String) (key : String)
    (set : AppConfig → String → Except ConfigError AppConfig) (c : AppConfig) :
    Except ConfigError AppConfig :=
  match vars.get? key with
  | some value => set c value
  | none => .ok c

/-- The configuration that variables give. -/
def ofVariables (vars : KeyMap String) : Except ConfigError AppConfig := do
  let c ← setFrom vars "env" (fun c v => (Mode.parse v).map c.withMode) standard
  let c ← setFrom vars "base_path" (fun c v => .ok (c.withBasePath v)) c
  let c ← setFrom vars "strict_methods"
    (fun c v => (parseBool "strict_methods" v).map c.withStrictMethods) c
  setFrom vars "warn_late_routes"
    (fun c v => (parseBool "warn_late_routes" v).map c.withWarnLateRoutes) c

/-- The configuration that the variables of a process give whose names start with `lead`. -/
def ofEnvironment (lead : String) (env : Environment) : Except ConfigError AppConfig :=
  ofVariables (EnvLoader.load ⟨some lead⟩ env)

end AppConfig

end Trellis
