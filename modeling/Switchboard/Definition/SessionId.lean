/-
Session ids as JSON strings.
-/
import Switchboard.Json.Decode

namespace Switchboard

namespace SessionId

/-- Reads a session id from its text. -/
def decode : Decoder SessionId
  | .string s =>
    match parse s with
    | .ok id => .ok id
    | .error reason => .error (.badSessionId reason)
  | v => .error (.wrongType v "a string")

def encode (id : SessionId) : Json := id.render

end SessionId

end Switchboard
