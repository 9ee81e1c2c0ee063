import TemplateServer.Protocol.Failure
import TemplateServer.Protocol.Request

namespace TemplateServer

open Json

structure RpcError where
  code : Int
  message : Text
  data : Option Json
  deriving BEq, Repr

namespace RpcError

def parse : RpcError := ⟨-32700, "Parse error", none⟩

def invalidRequest : RpcError := ⟨-32600, "Invalid Request", none⟩

def invalidRequestWith (detail : Text) : RpcError := ⟨-32600, detail, none⟩

def notReady : RpcError := invalidRequestWith "Server not initialized"

def methodNotFound (method : Text) : RpcError := ⟨-32601, "Method not found: " ++ method, none⟩

def invalidParams (detail : Text) : RpcError := ⟨-32602, detail, none⟩

def ofFailure (f : Failure) : RpcError := ⟨f.code.rpcCode, f.message, some f.json⟩

def dataMember (e : RpcError) : Members :=
  match e.data with
  | none => []
  | some d => [("data", d)]

def json (e : RpcError) : Json :=
  .obj (("code", .int e.code) :: ("message", .str e.message) :: e.dataMember)

end RpcError

inductive Outcome where
  | result (v : Json)
  | error (e : RpcError)
  deriving BEq, Repr

structure Response where
  id : Option RequestId
  outcome : Outcome
  deriving BEq, Repr

namespace Response

def result (id : Option RequestId) (v : Json) : Response := ⟨id, .result v⟩

def error (id : Option RequestId) (e : RpcError) : Response := ⟨id, .error e⟩

def internalError (id : Option RequestId) : Response :=
  error id (.ofFailure (.plain .internalError))

def outcomeMember (r : Response) : Text × Json :=
  match r.outcome with
  | .result v => ("result", v)
  | .error e => ("error", e.json)

def json (r : Response) : Json :=
  match r.id with
  | none => .obj [("jsonrpc", .str "2.0"), r.outcomeMember]
  | some id => .obj [("jsonrpc", .str "2.0"), ("id", id.json), r.outcomeMember]

def line (r : Response) : Text := r.json.text ++ ['\n']

end Response

structure ToolResult where
  text : Text
  isError : Bool
  deriving DecidableEq, Repr

namespace ToolResult

def ofText (s : Text) : ToolResult := ⟨s, false⟩

def errorText (s : Text) : ToolResult := ⟨s, true⟩

def ofFailure (f : Failure) : ToolResult := errorText (f.json.text ++ ['\n'])

def textContent (s : Text) : Json := .obj [("text", .str s), ("type", .str "text")]

def json (r : ToolResult) : Json :=
  if r.isError then .obj [("content", .arr [textContent r.text]), ("isError", .bool true)]
  else .obj [("content", .arr [textContent r.text])]

end ToolResult

end TemplateServer
