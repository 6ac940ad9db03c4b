import PlaybackRules.Failure
import PlaybackRules.Record.Reader
import PlaybackRules.Record.Writer
import PlaybackRules.Text.LowerCase

/-!
# Settings

Settings come from environment variables and may be overridden one by one.  A variable is named by
the stem that the host program chose and the setting's name, an override by the setting's name
alone, both in letters of either case; the text of a variable is read as the setting's value.  A
variable that is overridden is not read at all.
-/

namespace PlaybackRules

/-- The severities of log records. -/
inductive LogLevel where
  | debug | info | warning | error
  deriving DecidableEq, Repr, Inhabited

namespace LogLevel

def all : List LogLevel := [debug, info, warning, error]

/-- The written form in settings. -/
def name : LogLevel → String
  | debug => "DEBUG"
  | info => "INFO"
  | warning => "WARNING"
  | error => "ERROR"

/-- The written form in log records. -/
def label : LogLevel → String
  | debug => "debug"
  | info => "info"
  | warning => "warning"
  | error => "error"

def ofName? (name : String) : Option LogLevel := all.find? fun level => level.name == name

def ofLabel? (label : String) : Option LogLevel := all.find? fun level => level.label == label

/-- The place of a level among the levels. -/
def rank : LogLevel → Nat
  | debug => 0
  | info => 1
  | warning => 2
  | error => 3

end LogLevel

/-- The hours of a day. -/
def oneDay : Binary64 := .finite false (24 * Binary64.one)

/-- The settings of the program. -/
structure Settings where
  /-- Write log records for people, not as JSON. -/
  debug : Bool := false
  logLevel : LogLevel := .info
  /-- The hours of the window of a condition that names none. -/
  defaultWindow : Binary64 := oneDay
  metricsEnabled : Bool := true
  deriving DecidableEq, Repr

/-- Environment variables, and how the names of those that hold settings begin. -/
structure Environment where
  stem : String
  assignments : List (String × String) := []
  deriving DecidableEq, Repr

namespace Environment

/-- The text of the last variable that holds the setting of the given name. -/
def setting? (environment : Environment) (name : String) : Option String :=
  let wanted := Text.lower (environment.stem ++ name)
  (environment.assignments.reverse.find? fun (key, _) => Text.lower key == wanted).map (·.2)

/-- Sets a variable, or removes it. -/
def set (environment : Environment) (key : String) (text : Option String) : Environment :=
  let others := environment.assignments.filter fun (other, _) => other != key
  match text with
  | some text => { environment with assignments := others ++ [(key, text)] }
  | none => { environment with assignments := others }

end Environment

namespace Settings

/-- A positive number of hours. -/
def readWindow : Reader Binary64 := fun value =>
  (Reader.float value).andThen fun hours =>
    if Binary64.zero.below hours then .ok hours else .fault .greaterThan

/-- Reads settings from a record. -/
def read : Reader Settings := .record fun entries =>
  mk <$> Reader.optional "debug" .bool false entries
    <*> Reader.optional "log_level" (.named .levelName LogLevel.ofName?) .info entries
    <*> Reader.optional "default_window_hours" readWindow oneDay entries
    <*> Reader.optional "metrics_enabled" .bool true entries

def write (settings : Settings) : Value := .object [
  ("debug", .bool settings.debug),
  ("log_level", .str settings.logLevel.name),
  ("default_window_hours", .float settings.defaultWindow),
  ("metrics_enabled", .bool settings.metricsEnabled)]

/-- The names of the settings. -/
def names : List String := ["debug", "log_level", "default_window_hours", "metrics_enabled"]

/-- The value that overrides the setting of the given name: the one under that very name or, failing
that, the last one under the name in other letters. -/
def override? (overrides : Entries) (name : String) : Option Value :=
  match overrides.get? name with
  | some value => some value
  | none =>
    let wanted := Text.lower name
    (overrides.reverse.find? fun (key, _) => Text.lower key == wanted).map (·.2)

/-- The settings of an environment, with some overridden. -/
def load (environment : Environment) (overrides : Entries) : Except (List Fault) Settings :=
  let entries := names.filterMap fun name =>
    match override? overrides name with
    | some value => some (name, value)
    | none => (environment.setting? name).map fun text => (name, .str text)
  (read (.object entries)).toExcept

end Settings

/-- The settings in force, or the faults for which there are none. -/
abbrev Configuration := Except (List Fault) Settings

/-- The default window in force. -/
def Configuration.defaultWindow (config : Configuration) : Except Failure Binary64 :=
  match config with
  | .ok settings => .ok settings.defaultWindow
  | .error faults => .error (.settings faults)

end PlaybackRules
