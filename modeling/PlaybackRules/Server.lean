import PlaybackRules.Record.Reader
import PlaybackRules.Record.Writer

/-!
# Servers

The media servers whose sessions are watched.
-/

namespace PlaybackRules

/-- A media server. -/
structure Server where
  id : String
  name : String := ""
  /-- The kind of media server. -/
  type : String := "plex"
  deriving DecidableEq, Repr

namespace Server

def read : Reader Server := .record fun entries =>
  mk <$> Reader.required "id" .string entries
    <*> Reader.optional "name" .string "" entries
    <*> Reader.optional "type" .string "plex" entries

def write (server : Server) : Value := .object [
  ("id", .str server.id),
  ("name", .str server.name),
  ("type", .str server.type)]

end Server

end PlaybackRules
