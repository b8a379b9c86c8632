/-!
# Operating-system errors

The few socket errors the program reports, written the way the operating system names them,
with their error numbers.
-/

namespace VoiceSession.Net

inductive IoError where
  | addressInUse
  | networkUnreachable
  | connectionRefused
  deriving DecidableEq, Repr

namespace IoError

def code : IoError → Nat
  | .addressInUse => 98
  | .networkUnreachable => 101
  | .connectionRefused => 111

def text : IoError → String
  | .addressInUse => "Address already in use"
  | .networkUnreachable => "Network is unreachable"
  | .connectionRefused => "Connection refused"

def describe (e : IoError) : String := e.text ++ " (os error " ++ toString e.code ++ ")"

end IoError

end VoiceSession.Net
