import TemplateServer.Event
import TemplateServer.Json.Schema
import TemplateServer.Protocol.Response
import TemplateServer.Template.Check
import TemplateServer.Template.Fill

namespace TemplateServer

open Json

inductive Tool where
  | check
  | fill
  deriving DecidableEq, Repr

namespace Tool

def all : List Tool := [check, fill]

def name : Tool → Text
  | check => "validate_perchance_code"
  | fill => "generate_random_output"

def description : Tool → Text
  | check => "Validate the syntax of Perchance code"
  | fill => "Generate a random output from Perchance code"

def codeDescription : Tool → Text
  | check => "Perchance code to validate"
  | fill => "Perchance code containing HTML and lists"

def ofName? (name : Text) : Option Tool := all.find? (·.name = name)

theorem ofName?_name (t : Tool) : ofName? t.name = some t := by cases t <;> rfl

def inputSchema (t : Tool) : Json :=
  object [
    ("type", .str "object"),
    ("properties", object [
      ("code", object [("type", .str "string"), ("description", .str t.codeDescription)])]),
    ("required", texts ["code"])]

def json (t : Tool) : Json :=
  object [("name", .str t.name), ("description", .str t.description),
    ("inputSchema", t.inputSchema)]

def listing : Json := object [("tools", .arr (all.map json))]

structure Run (σ : Type) where
  result : ToolResult
  source : σ
  events : List Event

variable {σ : Type} [WordSource σ]

def checkResult (code : Text) : ToolResult := .ofText (Report.ofSource code).message

def fillResult (code : Text) (s : σ) : ToolResult × σ :=
  let (output, s) := Template.render code s
  (.ofText ("Random output: " ++ output), s)

def run (t : Tool) (code : Text) (s : σ) : Run σ :=
  match t with
  | check => ⟨checkResult code, s, [.checked (Report.ofSource code).valid]⟩
  | fill =>
    let (result, s) := fillResult code s
    ⟨result, s, []⟩

inductive Refusal where
  | schema (e : SchemaError)
  | record (e : DecodeError)

def Refusal.message : Refusal → Text
  | schema e => e.message
  | record e => e.message

def Refusal.events (t : Tool) : Refusal → List Event
  | schema e => [.argumentsRejected t.name e.message]
  | record _ => []

def codeOf (t : Tool) (arguments : Json) : Except Refusal CodeArgument := do
  (Schema.check t.inputSchema arguments).mapError .schema
  (Decodable.decode arguments : Decoded CodeArgument).mapError .record

end Tool

namespace ToolCall

variable {σ : Type} [WordSource σ]

def fail (code : FailureCode) (message : Text) (s : σ) (events : List Event) : Tool.Run σ :=
  ⟨.ofFailure ⟨code, message⟩, s, events⟩

def run (call : ToolCall) (s : σ) : Tool.Run σ :=
  match Tool.ofName? call.name with
  | none => fail .unknownTool ("Unknown tool: " ++ call.name) s []
  | some tool =>
    match call.arguments with
    | none => fail .invalidArguments ("Missing arguments for " ++ call.name) s []
    | some arguments =>
      match tool.codeOf arguments with
      | .error r =>
        fail .invalidArguments ("Invalid arguments for " ++ call.name ++ ": " ++ r.message) s
          (r.events tool)
      | .ok argument => tool.run argument.code s

end ToolCall

end TemplateServer
