import TemplateServer.Protocol.Response

namespace TemplateServer

open Json

structure PromptArgument where
  name : Text
  description : Text
  required : Bool
  deriving DecidableEq, Repr

structure Prompt where
  name : Text
  description : Text
  argument : PromptArgument
  summary : Text → Text
  message : Text → Text

namespace Prompt

def createList : Prompt where
  name := "create_perchance_list"
  description := "Prompt to help create a Perchance list"
  argument := ⟨"topic", "The topic for the new list", true⟩
  summary topic := "Creating a Perchance list for " ++ topic
  message topic :=
    "Create a Perchance.org list for " ++ topic ++
      ". Kindly include several lists, an HTML template using placeholders, and " ++
      "explain the structure."

def all : List Prompt := [createList]

def argumentJson (a : PromptArgument) : Json :=
  object [("name", .str a.name), ("description", .str a.description),
    ("required", .bool a.required)]

def json (p : Prompt) : Json :=
  object [("name", .str p.name), ("description", .str p.description),
    ("arguments", .arr [argumentJson p.argument])]

def listing : Json := object [("prompts", .arr (all.map json))]

def expand (p : Prompt) (value : Text) : Json :=
  object [
    ("description", .str (p.summary value)),
    ("messages", .arr [
      object [("role", .str "user"), ("content", ToolResult.textContent (p.message value))]])]

end Prompt

def PromptQuery.expand (q : PromptQuery) : Except Failure Json :=
  match Prompt.all.find? (·.name = q.name) with
  | none => .error (.plain .promptNotFound)
  | some p =>
    match q.arguments.lookup p.argument.name with
    | none => .error ⟨.invalidArguments, "Missing required argument: " ++ p.argument.name⟩
    | some value => .ok (p.expand value)

end TemplateServer
