import TemplateServer.Text.Basic

namespace TemplateServer

inductive Level where
  | debug
  | info
  | warn
  deriving DecidableEq, Repr

def Level.name : Level → Text
  | debug => "DEBUG"
  | info => "INFO"
  | warn => "WARN"

inductive Event where
  | dispatching (method : Text)
  | greeted (client : Text) (clientVersion : Text) (protocolVersion : Text)
  | checked (valid : Bool)
  | argumentsRejected (tool : Text) (error : Text)
  | tooLarge (limit : Nat)
  | notUtf8
  | malformed
  | inputClosed
  deriving DecidableEq, Repr

namespace Event

def level : Event → Level
  | dispatching _ | checked _ => .debug
  | greeted _ _ _ | inputClosed => .info
  | argumentsRejected _ _ | tooLarge _ | notUtf8 | malformed => .warn

def message : Event → Text
  | dispatching _ => "dispatching request"
  | greeted _ _ _ => "client initializing"
  | checked _ => "validated template"
  | argumentsRejected _ _ => "tool arguments rejected"
  | tooLarge _ => "message too large"
  | notUtf8 => "message is not valid UTF-8"
  | malformed => "parse error"
  | inputClosed => "input closed, shutting down"

def fields : Event → List (Text × Text)
  | dispatching method => [("method", method)]
  | greeted client clientVersion protocolVersion =>
    [("client", client), ("client_version", clientVersion), ("protocol_version", protocolVersion)]
  | checked valid => [("valid", if valid then "true" else "false")]
  | argumentsRejected tool error => [("tool", tool), ("error", error)]
  | tooLarge limit => [("limit", Text.ofNat limit)]
  | notUtf8 | malformed | inputClosed => []

end Event

end TemplateServer
