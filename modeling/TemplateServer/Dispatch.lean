import TemplateServer.Catalog.Prompts
import TemplateServer.Catalog.Resources
import TemplateServer.Catalog.Tools

/-! From a request to its response; words are drawn only where a tool is run. -/

namespace TemplateServer

open Json

inductive Method where
  | handshake
  | handshakeDone
  | ping
  | listTools
  | callTool
  | listResources
  | readResource
  | listPrompts
  | getPrompt
  deriving DecidableEq, Repr

namespace Method

def all : List Method :=
  [handshake, handshakeDone, ping, listTools, callTool, listResources, readResource, listPrompts,
    getPrompt]

def name : Method → Text
  | handshake => "initialize"
  | handshakeDone => "notifications/initialized"
  | ping => "ping"
  | listTools => "tools/list"
  | callTool => "tools/call"
  | listResources => "resources/list"
  | readResource => "resources/read"
  | listPrompts => "prompts/list"
  | getPrompt => "prompts/get"

def ofName? (name : Text) : Option Method := all.find? (·.name = name)

theorem ofName?_name (m : Method) : ofName? m.name = some m := by cases m <;> rfl

end Method

def serverName : Text := "perchance-helper"

def serverVersion : Text := "0.1.0"

def protocolVersion : Text := "2024-11-05"

def introduction : Json :=
  object [
    ("protocolVersion", .str protocolVersion),
    ("capabilities", object [("tools", .obj []), ("resources", .obj []), ("prompts", .obj [])]),
    ("serverInfo", object [("name", .str serverName), ("version", .str serverVersion)])]

def Greeting.event (g : Greeting) : Event :=
  .greeted ((g.client.bind (·.name)).getD "unknown") ((g.client.bind (·.version)).getD "unknown")
    (g.protocolVersion.getD "unspecified")

structure Answer (σ : Type) where
  response : Option Response
  source : σ
  events : List Event

namespace Request

def paramsAs (α : Type) [Decodable α] (r : Request) : Except RpcError α :=
  match r.params with
  | none => .error (.invalidParams ("Missing params for " ++ r.method))
  | some v =>
    match (Decodable.decode v : Decoded α) with
    | .error e => .error (.invalidParams ("Invalid " ++ r.method ++ " params: " ++ e.message))
    | .ok x => .ok x

def greetingEvents (r : Request) : List Event :=
  match r.paramsAs Greeting with
  | .ok g => [g.event]
  | .error _ => []

def reply (r : Request) (outcome : Except RpcError Json) : Response :=
  match outcome with
  | .ok v => .result r.id v
  | .error e => .error r.id e

def lookUp (α : Type) [Decodable α] (r : Request) (find : α → Except Failure Json) : Response :=
  r.reply do
    let query ← r.paramsAs α
    (find query).mapError .ofFailure

variable {σ : Type} [WordSource σ]

def answerMethod (r : Request) (s : σ) : Method → Answer σ
  | .handshake => ⟨r.reply (.ok introduction), s, r.greetingEvents⟩
  | .handshakeDone => ⟨none, s, []⟩
  | .ping => ⟨r.reply (.ok (.obj [])), s, []⟩
  | .listTools => ⟨r.reply (.ok Tool.listing), s, []⟩
  | .callTool =>
    match r.paramsAs ToolCall with
    | .error e => ⟨r.reply (.error e), s, []⟩
    | .ok call =>
      let run := call.run s
      ⟨r.reply (.ok run.result.json), run.source, run.events⟩
  | .listResources => ⟨r.reply (.ok Resource.listing), s, []⟩
  | .readResource => ⟨r.lookUp ResourceQuery ResourceQuery.read, s, []⟩
  | .listPrompts => ⟨r.reply (.ok Prompt.listing), s, []⟩
  | .getPrompt => ⟨r.lookUp PromptQuery PromptQuery.expand, s, []⟩

def unknownMethod (r : Request) : Option Response :=
  r.id.map fun id => .error id (.methodNotFound r.method)

def answer (r : Request) (s : σ) : Answer σ :=
  let a : Answer σ :=
    match Method.ofName? r.method with
    | none => ⟨r.unknownMethod, s, []⟩
    | some m => r.answerMethod s m
  { a with events := .dispatching r.method :: a.events }

end Request

end TemplateServer
