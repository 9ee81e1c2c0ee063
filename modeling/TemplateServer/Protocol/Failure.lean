import TemplateServer.Json.Decode

namespace TemplateServer

open Json

inductive FailureCode where
  | invalidArguments
  | unknownTool
  | resourceNotFound
  | promptNotFound
  | internalError
  deriving DecidableEq, Repr

namespace FailureCode

def all : List FailureCode :=
  [invalidArguments, unknownTool, resourceNotFound, promptNotFound, internalError]

def name : FailureCode → Text
  | invalidArguments => "invalid_arguments"
  | unknownTool => "unknown_tool"
  | resourceNotFound => "resource_not_found"
  | promptNotFound => "prompt_not_found"
  | internalError => "internal_error"

def ofName (name : Text) : Decoded FailureCode :=
  match all.find? (·.name = name) with
  | some code => .ok code
  | none => .error (.unknownTag name (all.map FailureCode.name))

def rpcCode : FailureCode → Int
  | invalidArguments | unknownTool | resourceNotFound | promptNotFound => -32602
  | internalError => -32603

def defaultMessage : FailureCode → Text
  | invalidArguments => "Tool arguments are invalid"
  | unknownTool => "Tool does not exist"
  | resourceNotFound => "Resource does not exist"
  | promptNotFound => "Prompt does not exist"
  | internalError => "Internal error"

def decode : Json → Decoded FailureCode
  | .str s => ofName s
  | .obj [(k, v)] => do
    let code ← ofName k
    match v with
    | .null => return code
    | _ => .error (.mismatch v .nothing)
  | .obj _ => .error .severalTags
  | v => .error (.mismatch v .tag)

end FailureCode

structure Failure where
  code : FailureCode
  message : Text
  deriving DecidableEq, Repr

namespace Failure

def plain (code : FailureCode) : Failure := ⟨code, code.defaultMessage⟩

def json (f : Failure) : Json :=
  .obj [("error", .obj [("code", .str f.code.name), ("message", .str f.message)])]

def bodyOfMembers (members : Members) : Decoded Failure := do
  let code ← members.member? "code" FailureCode.decode
  let message ← members.member? "message" asText
  let code ← present "code" code
  return ⟨code, ← present "message" message⟩

def bodyOfItems (items : Items) : Decoded (Failure × Items) := do
  let (code, items) ← items.next "McpError" 2 FailureCode.decode
  let (message, items) ← items.next "McpError" 2 asText
  return (⟨code, message⟩, items)

def body : Json → Decoded Failure := asRecord "McpError" bodyOfMembers bodyOfItems

def ofMembers (members : Members) : Decoded Failure := do
  let f ← members.member? "error" body
  present "error" f

def ofItems (items : Items) : Decoded (Failure × Items) := items.next "McpErrorResponse" 1 body

instance : Decodable Failure :=
  ⟨.record [("error", .record [("code", .tag), ("message", .whole)])],
    asRecord "McpErrorResponse" ofMembers ofItems⟩

end Failure

end TemplateServer
