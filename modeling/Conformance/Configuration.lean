import Conformance.Run.Basic
import Conformance.Toml.Document

/-!
# Configuration files

A configuration file is a table of settings with the options of rules under `rules`. It stands at
the top of a file of its own, or in a file that other tools share, under the checker's name in
the table `tool`.
-/

set_option autoImplicit false

namespace Conformance

/-- What a configuration file says. -/
structure FileConfiguration where
  rules : Table (Table Value)
  settings : Settings

/-- A file by its name; no content if it does not exist. -/
structure ConfigurationFile where
  name : String
  content : Option ByteArray

namespace FileConfiguration

/-- The name under which the checker is configured in a shared file. -/
def toolName : String := "calicheck"

/-- The table that holds the configuration: the checker's own if it is there, else the document. -/
def sectionOf (source : String) (document : Table Value) : Except Error (Table Value) :=
  match ((document.get? "tool").bind Value.table?).bind (·.get? toolName) with
  | none => .ok document
  | some v =>
    match v.table? with
    | some table => .ok table
    | none => .error (.configuration source ("[tool." ++ toolName ++ "] must be a table"))

/-- The options of one rule are a table. -/
def checkRule (source : String) (entry : String × Value) : Except Error (String × Table Value) :=
  match entry.2.table? with
  | some options => .ok (entry.1, options)
  | none => .error (.configuration source ("rules." ++ entry.1 ++ " must be a table"))

/-- The options of all rules. -/
def readRules (source : String) (options : Table Value) : Except Error (Table (Table Value)) :=
  match options.get? "rules" with
  | none => .ok .empty
  | some v =>
    match v.table? with
    | some rules => do return .ofList (← rules.entries.mapM (checkRule source))
    | none => .error (.configuration source "'rules' must be a table")

/-- A setting that may be left out; `read` takes the values of the right kind. -/
def readSetting {α : Type} (source key kind : String) (read : Value → Option α)
    (options : Table Value) : Except Error (Option α) :=
  match options.get? key with
  | none => .ok none
  | some v =>
    match read v with
    | some a => .ok (some a)
    | none => do
      .error (.configuration source
        ("'" ++ key ++ "' must be " ++ kind ++ ", got " ++ (← v.write)))

/-- A whole number. -/
def whole? : Value → Option Int
  | .int n => some n
  | _ => none

/-- A truth value. -/
def bool? : Value → Option Bool
  | .bool b => some b
  | _ => none

/-- The settings: first each by its kind, then their sizes. -/
def readSettings (source : String) (options : Table Value) : Except Error Settings := do
  let maxWorkers ← readSetting source "max_workers" "int" whole? options
  let budget ← readSetting source "time_budget_s" "int or float" Seconds.ofValue? options
  let strictOptions ← readSetting source "strict_options" "bool" bool? options
  -- kinds are settled for all three before any size is looked at
  match Settings.make maxWorkers budget (strictOptions.getD false) with
  | .ok settings => return settings
  | .error e => throw (.configuration source e.message)

/-- The configuration in a document that came from `source`. -/
def parse (source : String) (document : Table Value) : Except Error FileConfiguration := do
  let options ← sectionOf source document
  let rules ← readRules source options
  let settings ← readSettings source options
  return { rules, settings }

/-- The configuration in a value, which has to be a table. -/
def ofValue (source : String) (v : Value) : Except Error FileConfiguration :=
  match v.table? with
  | some document => parse source document
  | none => .error (.noPart v.kindName "get")

/-- The configuration in a file. -/
def load (file : ConfigurationFile) : Except Error FileConfiguration :=
  match file.content with
  | none => .error (.missingFile file.name)
  | some bytes =>
    match String.fromUTF8? bytes with
    | none => .error .notText
    | some text => do parse file.name (.ofList (← Toml.read text))

end FileConfiguration

end Conformance
