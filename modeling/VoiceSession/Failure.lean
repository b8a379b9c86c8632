/-!
# Session failures

A failure names the lifecycle step it came from, with a chain of causes written outermost first
and joined by `: `. Only device and connect failures move the lifecycle to its error state.
-/

namespace VoiceSession

/-- A cause with its context: `chain` lists the descriptions outermost first. -/
structure Cause where
  chain : List String
  deriving DecidableEq, Repr

namespace Cause

def ofMessage (text : String) : Cause := { chain := [text] }

def context (c : Cause) (text : String) : Cause := { chain := text :: c.chain }

def describe (c : Cause) : String := ": ".intercalate c.chain

end Cause

/-- Why a session step failed. -/
inductive Failure where
  | device (cause : Cause)
  | connect (cause : Cause)
  | teardown (cause : Cause)
  | message (text : String)
  | runtime (text : String)
  | controllerGone
  deriving DecidableEq, Repr

namespace Failure

/-- The text of a failure. -/
def describe : Failure → String
  | .device c => "device initialization failed: " ++ c.describe
  | .connect c => "session establishment failed: " ++ c.describe
  | .teardown c => "teardown failed: " ++ c.describe
  | .message t => "malformed message: " ++ t
  | .runtime t => "runtime notification: " ++ t
  | .controllerGone => "session controller is not running"

def isConnectFailure : Failure → Bool
  | .device _ | .connect _ => true
  | _ => false

end Failure

end VoiceSession
