import VoiceSession.Json.Value
/-!
# The session log

Every line the controller logs is a `LogEntry` whose category follows from how the text
begins, tested in this order: `User: `, `Bot: `, `Status: `, `Error` (no colon needed), and
anything else is information.
-/

namespace VoiceSession

open Json

/-- How a log line is styled. -/
inductive LogCategory where
  | user
  | bot
  | status
  | error
  | info
  deriving DecidableEq, Repr, Inhabited

namespace LogCategory

/-- The written name. -/
def name : LogCategory → String
  | .user => "user"
  | .bot => "bot"
  | .status => "status"
  | .error => "error"
  | .info => "info"

def all : List LogCategory := [.user, .bot, .status, .error, .info]

/-- The category of a line, from the way its text begins. -/
def infer (text : String) : LogCategory :=
  if text.startsWith "User: " then .user
  else if text.startsWith "Bot: " then .bot
  else if text.startsWith "Status: " then .status
  else if text.startsWith "Error" then .error
  else .info

end LogCategory

/-- One line of the log. -/
structure LogEntry where
  text : String
  category : LogCategory
  deriving DecidableEq, Repr

namespace LogEntry

def ofText (text : String) : LogEntry := { text := text, category := LogCategory.infer text }

def toJson (e : LogEntry) : Value :=
  .object [("text", .string e.text), ("category", .string e.category.name)]

end LogEntry

end VoiceSession
