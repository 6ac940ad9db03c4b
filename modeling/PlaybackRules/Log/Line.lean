import PlaybackRules.Log.Quoted
import PlaybackRules.Settings

/-!
# Log lines

A logger writes records of at least the level in the settings, each as one line: a JSON object, or
a text for people in debug mode.  A record's own fields take precedence over those bound to its
logger, and these over those of the surrounding context.  Plain loggers of other libraries write
their bare message, and only if they are routed to the same stream.
-/

namespace PlaybackRules

/-- A line of the log. -/
inductive LogLine where
  /-- A JSON object; the time of writing is left out. -/
  | json (fields : Entries)
  /-- A text for people, or a bare message. -/
  | text (line : String)

/-- How the log is set up. -/
structure LogSetup where
  settings : Settings
  /-- The fields of the surrounding context. -/
  context : Entries := []
  /-- The fields bound to the logger. -/
  bound : Entries := []
  /-- Do plain loggers write to the same stream? -/
  routed : Bool := false

/-- A message to be logged. -/
inductive LogMessage where
  | record (level : LogLevel) (text : String) (fields : Entries)
  | plain (level : LogLevel) (text : String)

/-- The entries of both, the second's where they share a key. -/
def Entries.merge (first second : Entries) : Entries :=
  second.foldl (fun entries (key, value) => Entries.set entries key value) first

/-- Each run of spaces and tabs as one space, none at the end. -/
def squeezeBlanks (cs : List Char) : List Char :=
  let isGap (c : Char) := c == ' ' || c == '\t'
  let squeezed := cs.foldr (fun c rest =>
    if isGap c then (if rest.head? == some ' ' then rest else ' ' :: rest) else c :: rest) []
  (squeezed.reverse.dropWhile isGap).reverse

namespace LogSetup

/-- The level of the loggers of other libraries: that of the settings when they are routed. -/
def plainLevel (setup : LogSetup) : LogLevel :=
  if setup.routed then setup.settings.logLevel else .warning

/-- The number of streams to which other libraries write. -/
def plainStreams (setup : LogSetup) : Nat := if setup.routed then 1 else 0

/-- Are messages of a level written? -/
def writes (setup : LogSetup) (level : LogLevel) : Bool :=
  setup.settings.logLevel.rank ≤ level.rank

/-- All fields of a record but its text, level and time, which no field can replace. -/
def fieldsOf (setup : LogSetup) (fields : Entries) : Entries :=
  let merged := (setup.context.merge setup.bound).merge fields
  merged.filter fun (key, _) => key != "event" && key != "level" && key != "timestamp"

/-- The line for people: level, text, and the fields in the order of their keys. -/
def console (level : LogLevel) (text : String) (fields : Entries) : String :=
  let sorted := fields.mergeSort fun a b => a.1 ≤ b.1
  let shown := sorted.flatMap fun (key, value) => ' ' :: key.toList ++ '=' :: value.shown
  let head := '[' :: level.label.toList ++ " ] ".toList
  String.ofList (squeezeBlanks (head ++ text.toList ++ shown))

/-- The line that a message gives rise to, if any. -/
def line? (setup : LogSetup) : LogMessage → Option LogLine
  | .record level text fields =>
    if setup.writes level then
      let fields := setup.fieldsOf fields
      if setup.settings.debug then some (.text (console level text fields))
      else some (.json (fields ++ [("event", .str text), ("level", .str level.label)]))
    else none
  | .plain level text =>
    if setup.routed && setup.writes level then some (.text text) else none

/-- The lines of some messages. -/
def lines (setup : LogSetup) (messages : List LogMessage) : List LogLine :=
  messages.filterMap setup.line?

end LogSetup

end PlaybackRules
