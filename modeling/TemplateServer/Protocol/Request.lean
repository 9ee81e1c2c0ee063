import TemplateServer.Json.Decode

namespace TemplateServer

open Json

inductive RequestId where
  | number (n : Int)
  | name (s : Text)
  deriving DecidableEq, Repr

namespace RequestId

def json : RequestId → Json
  | number n => .int n
  | name s => .str s

def decode : Json → Decoded RequestId
  | .int n =>
    if -0x8000000000000000 ≤ n ∧ n < 0x8000000000000000 then .ok (number n)
    else .error .noIdentifier
  | .str s => .ok (name s)
  | _ => .error .noIdentifier

instance : Decodable RequestId := ⟨.whole, decode⟩

end RequestId

structure Request where
  version : Text
  id : Option RequestId
  method : Text
  params : Option Json
  deriving BEq, Repr

namespace Request

def fields : List (Text × Shape) :=
  [("jsonrpc", .whole), ("id", .whole), ("method", .whole), ("params", .whole)]

def ofMembers (members : Members) : Decoded Request := do
  let id ← members.member? "id" (asOption RequestId.decode)
  let version ← members.member? "jsonrpc" asText
  let method ← members.member? "method" asText
  let params ← members.member? "params" (asOption .ok)
  let version ← present "jsonrpc" version
  let method ← present "method" method
  return ⟨version, id.join, method, params.join⟩

def ofItems (items : Items) : Decoded (Request × Items) := do
  let (version, items) ← items.next "JsonRpcRequest" 4 asText
  let (id, items) ← items.next "JsonRpcRequest" 4 (asOption RequestId.decode)
  let (method, items) ← items.next "JsonRpcRequest" 4 asText
  let (params, items) ← items.next "JsonRpcRequest" 4 (asOption .ok)
  return (⟨version, id, method, params⟩, items)

def decode : Json → Decoded Request := asRecord "JsonRpcRequest" ofMembers ofItems

instance : Decodable Request := ⟨.record fields, decode⟩

end Request

structure CodeArgument where
  code : Text
  deriving DecidableEq, Repr

namespace CodeArgument

def ofMembers (members : Members) : Decoded CodeArgument := do
  let code ← members.member? "code" asText
  return ⟨← present "code" code⟩

def ofItems (items : Items) : Decoded (CodeArgument × Items) := do
  let (code, items) ← items.next "CodeParams" 1 asText
  return (⟨code⟩, items)

instance : Decodable CodeArgument :=
  ⟨.record [("code", .whole)], asRecord "CodeParams" ofMembers ofItems⟩

end CodeArgument

structure ResourceQuery where
  uri : Text
  deriving DecidableEq, Repr

namespace ResourceQuery

def ofMembers (members : Members) : Decoded ResourceQuery := do
  let uri ← members.member? "uri" asText
  return ⟨← present "uri" uri⟩

def ofItems (items : Items) : Decoded (ResourceQuery × Items) := do
  let (uri, items) ← items.next "ReadResourceParams" 1 asText
  return (⟨uri⟩, items)

instance : Decodable ResourceQuery :=
  ⟨.record [("uri", .whole)], asRecord "ReadResourceParams" ofMembers ofItems⟩

end ResourceQuery

structure Client where
  name : Option Text
  version : Option Text
  deriving DecidableEq, Repr

namespace Client

def fields : List (Text × Shape) := [("name", .whole), ("version", .whole)]

def ofMembers (members : Members) : Decoded Client := do
  let name ← members.member? "name" (asOption asText)
  let version ← members.member? "version" (asOption asText)
  return ⟨name.join, version.join⟩

def ofItems (items : Items) : Decoded (Client × Items) := do
  let (name, items) ← items.next "ClientInfo" 2 (asOption asText)
  let (version, items) ← items.next "ClientInfo" 2 (asOption asText)
  return (⟨name, version⟩, items)

def decode : Json → Decoded Client := asRecord "ClientInfo" ofMembers ofItems

instance : Decodable Client := ⟨.record fields, decode⟩

end Client

structure Greeting where
  protocolVersion : Option Text
  client : Option Client
  deriving DecidableEq, Repr

namespace Greeting

def ofMembers (members : Members) : Decoded Greeting := do
  let client ← members.member? "clientInfo" (asOption Client.decode)
  let version ← members.member? "protocolVersion" (asOption asText)
  return ⟨version.join, client.join⟩

def ofItems (items : Items) : Decoded (Greeting × Items) := do
  let (version, items) ← items.next "InitializeParams" 2 (asOption asText)
  let (client, items) ← items.next "InitializeParams" 2 (asOption Client.decode)
  return (⟨version, client⟩, items)

instance : Decodable Greeting :=
  ⟨.record [("protocolVersion", .whole), ("clientInfo", .record Client.fields)],
    asRecord "InitializeParams" ofMembers ofItems⟩

end Greeting

structure ToolCall where
  name : Text
  arguments : Option Json
  deriving BEq, Repr

namespace ToolCall

def ofMembers (members : Members) : Decoded ToolCall := do
  let arguments ← members.member? "arguments" (asOption .ok)
  let name ← members.member? "name" asText
  return ⟨← present "name" name, arguments.join⟩

def ofItems (items : Items) : Decoded (ToolCall × Items) := do
  let (name, items) ← items.next "ToolCallParams" 2 asText
  let (arguments, items) ← items.next "ToolCallParams" 2 (asOption .ok)
  return (⟨name, arguments⟩, items)

instance : Decodable ToolCall :=
  ⟨.record [("name", .whole), ("arguments", .whole)],
    asRecord "ToolCallParams" ofMembers ofItems⟩

end ToolCall

structure PromptQuery where
  name : Text
  arguments : List (Text × Text)
  deriving DecidableEq, Repr

namespace PromptQuery

def ofMembers (members : Members) : Decoded PromptQuery := do
  let arguments ← members.member? "arguments" asTexts
  let name ← members.member? "name" asText
  return ⟨← present "name" name, arguments.getD []⟩

def ofItems (items : Items) : Decoded (PromptQuery × Items) := do
  let (name, items) ← items.next "GetPromptParams" 2 asText
  let (arguments, items) ← items.next? asTexts
  return (⟨name, arguments.getD []⟩, items)

instance : Decodable PromptQuery :=
  ⟨.record [("name", .whole), ("arguments", .texts)],
    asRecord "GetPromptParams" ofMembers ofItems⟩

end PromptQuery

end TemplateServer
