import PlaybackRules.Condition

/-!
# Rules

A rule is a list of condition groups, all of which have to hold, with the actions to take when they
do.  It may be switched off, or meant for one server only.
-/

namespace PlaybackRules

/-- What the caller does when a rule matches. -/
structure Action where
  type : String
  config : Entries := []

namespace Action

def read : Reader Action := .record fun entries =>
  mk <$> Reader.required "type" .string entries
    <*> Reader.optional "config" .object [] entries

def write (action : Action) : Value :=
  .object [("type", .str action.type), ("config", .object action.config)]

end Action

/-- A rule. -/
structure Rule where
  id : String
  name : String
  isActive : Bool := true
  /-- The one server that the rule is for; none or an empty one means all. -/
  serverId : Option String := none
  /-- The condition groups; a rule without any account of conditions never matches. -/
  conditions : Option RuleConditions := some []
  actions : List Action := []

namespace Rule

def read : Reader Rule := .record fun entries =>
  mk <$> Reader.required "id" .string entries
    <*> Reader.required "name" .string entries
    <*> Reader.optional "is_active" .bool true entries
    <*> Reader.optional "server_id" (.nullable .string) none entries
    <*> Reader.optional "conditions" (.nullable RuleConditions.read) (some []) entries
    <*> Reader.optional "actions" (.list Action.read) [] entries

def write (rule : Rule) : Value := .object [
  ("id", .str rule.id),
  ("name", .str rule.name),
  ("is_active", .bool rule.isActive),
  ("server_id", .ofOption .str rule.serverId),
  ("conditions", .ofOption RuleConditions.write rule.conditions),
  ("actions", .ofList Action.write rule.actions)]

/-- Is the rule for all servers or for the given one? -/
def appliesTo (rule : Rule) (serverId : String) : Bool :=
  match rule.serverId with
  | none => true
  | some id => id == "" || id == serverId

/-- The fields whose observation can change when only the decision to transcode does. -/
def transcodeFields : List Field := [.isTranscoding, .isTranscodeDowngrade, .outputResolution]

/-- Does a condition of the rule depend on the state of transcoding? -/
def dependsOnTranscode (rule : Rule) : Bool :=
  (rule.conditions.getD []).any fun group => group.any fun condition =>
    condition.field.field?.any transcodeFields.contains

end Rule

end PlaybackRules
