import PlaybackRules.Metrics

/-!
# Monitoring a server over time

A monitor follows the sessions of one user on one server: it keeps the rules, the active and recent
sessions, the settings once they have been read, the trace scopes and the counters.  A command that
is refused leaves everything as it was, but for the account and the clock, which keep what they were
given even when it does not read.
-/

namespace PlaybackRules

/-- What a record is about. -/
inductive Subject where
  | session | user | server | rule | clock | settings
  deriving DecidableEq, Repr

/-- Why a command is refused. -/
inductive Refusal where
  | unreadable (subject : Subject) (faults : List Fault)
  | unknownSession
  | unknownScope
  deriving Repr

/-- A session as it is followed; the key tells it apart from an equal one. -/
structure Followed where
  key : Nat
  session : Session

structure Monitor where
  engine : Engine := {}
  /-- The records of the account and the server, and the time, as they were given. -/
  account : Value
  server : Value
  clock : Value
  rules : List Rule := []
  active : List Followed := []
  recent : List Followed := []
  nextKey : Nat := 0
  environment : Environment
  /-- The settings, once they have been read. -/
  settings : Option Settings := none
  trace : TraceState := {}
  scopes : List (String × TraceScope) := []
  /-- Everything that has happened. -/
  history : List Event := []

/-- What a monitor can be told. -/
inductive Command where
  | start (session : Value)
  | stop (id : String)
  | update (id : String) (changes : Entries)
  /-- An update, followed by a new look at the rules that depend on transcoding. -/
  | transition (id : String) (changes : Entries)
  | rule (rule : Value)
  | user (changes : Entries)
  | now (time : Value)
  | evaluate (id : String) (mode : Mode)
  | environment (changes : List (String × Option String))
  | forgetSettings
  | readSettings
  | makeScope (name : String) (id : Option String)
  | enterScope (name : String)
  | exitScope (name : String)
  | setTrace (id : String)
  | clearTrace
  | metrics

/-- What a monitor answers. -/
inductive Reply where
  | done
  | ids (ids : List String)
  | lists (active recent : List String)
  | changed (changed : Bool)
  | results (results : List EvaluationResult)
  | user (user : User)
  | time (stamp : Stamp)
  | settings (settings : Settings)
  | trace (id : TraceId)
  | metrics (metrics : Metrics)

/-- The answer to a command, with the events it caused and the monitor after it. -/
structure Response where
  answer : Except Refusal Reply
  events : List Stamped := []
  monitor : Monitor

namespace Monitor

/-- Reads a record of a subject. -/
def readAs {α : Type} (subject : Subject) (reading : Checked α) : Except Refusal α :=
  match reading with
  | .ok a => .ok a
  | .faulty faults => .error (.unreadable subject faults)

/-- The settings in force. -/
def configuration (monitor : Monitor) : Configuration :=
  match monitor.settings with
  | some settings => .ok settings
  | none => Settings.load monitor.environment []

/-- Keeps the settings once they have been consulted, unless they could not be read. -/
def keepSettings (monitor : Monitor) : Monitor :=
  match monitor.configuration with
  | .ok settings => { monitor with settings := some settings }
  | .error _ => monitor

/-- The first session with an identifier, among the active and then the recent ones. -/
def find? (monitor : Monitor) (id : String) : Except Refusal Followed :=
  match (monitor.active ++ monitor.recent).find? fun followed => followed.session.id == id with
  | some followed => .ok followed
  | none => .error .unknownSession

/-- The scope last made or opened under a name. -/
def scope? (monitor : Monitor) (name : String) : Except Refusal TraceScope :=
  match monitor.scopes.lookup name with
  | some scope => .ok scope
  | none => .error .unknownScope

/-- A list of sessions as seen from the one with a key. -/
def peers (list : List Followed) (key : Nat) : List Peer :=
  list.map fun followed => if followed.key == key then .current else .other followed.session

/-- The context of the session with a key. -/
def context (monitor : Monitor) (current : Followed) : Except Refusal Context := do
  let user ← readAs .user (User.read monitor.account)
  let server ← readAs .server (Server.read monitor.server)
  let now ← readAs .clock (Reader.moment monitor.clock)
  return {
    session := current.session, user, server, now
    active := peers monitor.active current.key
    recent := peers monitor.recent current.key }

/-- Replaces a session wherever it is followed. -/
def replace (monitor : Monitor) (key : Nat) (session : Session) : Monitor :=
  let put (followed : Followed) := if followed.key == key then ⟨key, session⟩ else followed
  { monitor with active := monitor.active.map put, recent := monitor.recent.map put }

/-- Takes over what happened in a pass.  If there was a rule to evaluate, the settings have been
consulted. -/
def absorb (monitor : Monitor) (consulted : Bool) (pass : TracedPass) : Monitor :=
  let monitor := if consulted then monitor.keepSettings else monitor
  { monitor with trace := pass.trace, history := monitor.history ++ pass.events.map (·.event) }

/-- Evaluates all rules with a session as the current one. -/
def evaluate (monitor : Monitor) (id : String) (mode : Mode) :
    Except Refusal (TracedPass × Monitor) := do
  let current ← monitor.find? id
  let context ← monitor.context current
  let pass := monitor.engine.evaluateRules monitor.configuration mode context monitor.rules
    monitor.trace
  let consulted := monitor.rules.any (·.isApplicable context)
  return (pass, monitor.absorb consulted pass)

/-- Updates a session; gives it as it was, and the monitor after. -/
def update (monitor : Monitor) (id : String) (changes : Entries) :
    Except Refusal (Session × Followed × Monitor) := do
  let old ← monitor.find? id
  let session ← readAs .session (old.session.update changes)
  return (old.session, ⟨old.key, session⟩, monitor.replace old.key session)

/-- Updates a session and looks anew at the rules that depend on transcoding. -/
def transition (monitor : Monitor) (id : String) (changes : Entries) :
    Except Refusal (TracedPass × Monitor) := do
  let (previous, current, monitor) ← monitor.update id changes
  let context ← monitor.context current
  let pass := monitor.engine.reevaluate monitor.configuration context monitor.rules previous
    monitor.trace
  let consulted := previous.transcodeChanged current.session &&
    monitor.rules.any fun rule => rule.dependsOnTranscode && rule.isApplicable context
  return (pass, monitor.absorb consulted pass)

/-- The identifiers of a list of sessions. -/
def ids (list : List Followed) : List String := list.map (·.session.id)

/-- The rules with one more; it takes the place of an earlier one of its identifier, at the end. -/
def addRule (rules : List Rule) (rule : Rule) : List Rule :=
  rules.filter (·.id != rule.id) ++ [rule]

/-- What is stored before a command is carried out, and stays even if it is refused. -/
def store (monitor : Monitor) : Command → Monitor
  | .user changes =>
    let record := match monitor.account with
      | .object entries => entries
      | _ => []
    let merged := changes.foldl (fun entries (key, value) => Entries.set entries key value) record
    { monitor with account := .object merged }
  | .now time => { monitor with clock := time }
  | _ => monitor

/-- What carrying out a command comes to: the reply, the events, and the monitor after it. -/
abbrev Effect := Reply × List Stamped × Monitor

/-- A reply without events. -/
def quietly (reply : Reply) (monitor : Monitor) : Effect := (reply, [], monitor)

/-- The results of a pass, and its events. -/
def passed : TracedPass × Monitor → Effect
  | (pass, monitor) => (.results pass.results, pass.events, monitor)

/-- Carries out a command. -/
def perform (monitor : Monitor) : Command → Except Refusal Effect
  | .start value => do
    let session ← readAs .session (Session.read value)
    let active := monitor.active ++ [⟨monitor.nextKey, session⟩]
    return quietly (.ids (ids active)) { monitor with active, nextKey := monitor.nextKey + 1 }
  | .stop id => do
    let followed ← monitor.find? id
    let active := monitor.active.filter (·.key != followed.key)
    let recent := monitor.recent ++ [followed]
    return quietly (.lists (ids active) (ids recent)) { monitor with active, recent }
  | .update id changes => do
    let (previous, current, monitor) ← monitor.update id changes
    return quietly (.changed (previous.transcodeChanged current.session)) monitor
  | .transition id changes => passed <$> monitor.transition id changes
  | .rule value => do
    let rules := addRule monitor.rules (← readAs .rule (Rule.read value))
    return quietly (.ids (rules.map (·.id))) { monitor with rules }
  | .user _ => do
    return quietly (.user (← readAs .user (User.read monitor.account))) monitor
  | .now _ => do
    return quietly (.time (← readAs .clock (Reader.stamp monitor.clock))) monitor
  | .evaluate id mode => passed <$> monitor.evaluate id mode
  | .environment changes =>
    let environment := changes.foldl (fun e (key, text) => Environment.set e key text)
      monitor.environment
    return quietly .done { monitor with environment }
  | .forgetSettings => return quietly .done { monitor with settings := none }
  | .readSettings => do
    let settings ← monitor.configuration.mapError (.unreadable .settings)
    return quietly (.settings settings) monitor.keepSettings
  | .makeScope name id =>
    let (scope, trace) := TraceScope.make monitor.trace id
    return quietly .done { monitor with trace, scopes := (name, scope) :: monitor.scopes }
  | .enterScope name => do
    let (scope, trace) := (← monitor.scope? name).enter monitor.trace
    return quietly (.trace scope.id)
      { monitor with trace, scopes := (name, scope) :: monitor.scopes }
  | .exitScope name => do
    return quietly .done { monitor with trace := (← monitor.scope? name).exit monitor.trace }
  | .setTrace id => return quietly .done { monitor with trace := monitor.trace.set (.given id) }
  | .clearTrace => return quietly .done { monitor with trace := monitor.trace.clear }
  | .metrics => return quietly (.metrics (.ofEvents monitor.history)) monitor

/-- Stores what has to be stored, and carries out a command. -/
def step (monitor : Monitor) (command : Command) : Response :=
  let monitor := monitor.store command
  match monitor.perform command with
  | .ok (reply, events, after) => { answer := .ok reply, events, monitor := after }
  | .error refusal => { answer := .error refusal, monitor }

end Monitor

end PlaybackRules
