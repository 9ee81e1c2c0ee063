import TemplateServer.Protocol.Response

namespace TemplateServer

open Json

structure Resource where
  uri : Text
  name : Text
  description : Text
  text : Text
  deriving DecidableEq, Repr

namespace Resource

def mimeType : Text := "text/plain"

def basicExample : Resource where
  uri := "perchance://examples/basic"
  name := "basic"
  description := "Basic Perchance example with lists and HTML"
  text :=
    "<p>A [creature] that is [size] and loves [food]< /p>\n\ncreature\ndog|cat|bird\n\n" ++
      "size\nsmall|large|medium\n\nfood\npizza|burgers|salad"

def all : List Resource := [basicExample]

def json (r : Resource) : Json :=
  object [("uri", .str r.uri), ("name", .str r.name), ("mimeType", .str mimeType),
    ("description", .str r.description)]

def listing : Json := object [("resources", .arr (all.map json))]

def contents (r : Resource) : Json :=
  object [("contents", .arr [
    object [("uri", .str r.uri), ("mimeType", .str mimeType), ("text", .str r.text)]])]

end Resource

def ResourceQuery.read (q : ResourceQuery) : Except Failure Json :=
  match Resource.all.find? (·.uri = q.uri) with
  | none => .error (.plain .resourceNotFound)
  | some r => .ok r.contents

end TemplateServer
