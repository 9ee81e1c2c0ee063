import TemplateServer.Json.Form
import TemplateServer.Text.Quoted

/-! Typed data out of JSON. A text is decoded without a value of the whole, so that members nobody
asks for may hold what no value can. -/

namespace TemplateServer.Json

inductive Want where
  | text
  | table
  | nothing
  | tag
  | record (name : Text)
  deriving DecidableEq, Repr

inductive DecodeError where
  | missing (field : Text)
  | mismatch (found : Json) (want : Want)
  | tooShort (length : Nat) (record : Text) (fields : Nat)
  | tooLong (length : Nat)
  | noIdentifier
  | unknownTag (tag : Text) (known : List Text)
  | severalTags
  deriving BEq, Repr

namespace Want

def phrase : Want → Text
  | text => "a string"
  | table => "a map"
  | nothing => "unit"
  | tag => "string or map"
  | record name => "struct " ++ name

end Want

namespace DecodeError

def ticked (s : Text) : Text := '\x60' :: s ++ ['\x60']

def found : Json → Text
  | .null => "null"
  | .bool true => "boolean " ++ ticked "true"
  | .bool false => "boolean " ++ ticked "false"
  | .int n => "integer " ++ ticked (Text.ofInt n)
  | .double x => "floating point " ++ ticked x.text
  | .str s => "string " ++ s.quoted
  | .arr _ => "sequence"
  | .obj _ => "map"

def commas (items : List Text) : Text := ", ".toList.intercalate items

def message : DecodeError → Text
  | missing field => "missing field " ++ ticked field
  | mismatch v want => "invalid type: " ++ found v ++ ", expected " ++ want.phrase
  | tooShort length record fields =>
    "invalid length " ++ Text.ofNat length ++ ", expected struct " ++ record ++ " with " ++
      Text.ofNat fields ++ (if fields = 1 then " element" else " elements")
  | tooLong length =>
    "invalid length " ++ Text.ofNat length ++ ", expected fewer elements in array"
  | noIdentifier => "data did not match any variant of untagged enum RpcId"
  | unknownTag tag known =>
    "unknown variant " ++ ticked tag ++ ", expected one of " ++ commas (known.map ticked)
  | severalTags => "invalid value: map, expected map with a single key"

end DecodeError

abbrev Decoded := Except DecodeError

def asText : Json → Decoded Text
  | .str s => .ok s
  | v => .error (.mismatch v .text)

def asOption {α : Type} (decode : Json → Decoded α) : Json → Decoded (Option α)
  | .null => .ok none
  | v => (decode v).map some

def asTextsFrom (out : List (Text × Text)) : List (Text × Json) → Decoded (List (Text × Text))
  | [] => .ok out.reverse
  | (k, v) :: rest =>
    match asText v with
    | .ok s => asTextsFrom ((k, s) :: out) rest
    | .error e => .error e

def asTexts : Json → Decoded (List (Text × Text))
  | .obj members => asTextsFrom [] members
  | v => .error (.mismatch v .table)

namespace Members

def member? {α : Type} (members : Members) (field : Text) (decode : Json → Decoded α) :
    Decoded (Option α) :=
  match get? members field with
  | none => .ok none
  | some v => (decode v).map some

end Members

def present {α : Type} (field : Text) : Option α → Decoded α
  | some x => .ok x
  | none => .error (.missing field)

structure Items where
  left : List Json
  taken : Nat

namespace Items

def ofList (items : List Json) : Items := ⟨items, 0⟩

def next? {α : Type} (items : Items) (decode : Json → Decoded α) :
    Decoded (Option α × Items) :=
  match items.left with
  | [] => .ok (none, items)
  | v :: left => (decode v).map fun x => (some x, ⟨left, items.taken + 1⟩)

def next {α : Type} (items : Items) (record : Text) (fields : Nat) (decode : Json → Decoded α) :
    Decoded (α × Items) :=
  match items.left with
  | [] => .error (.tooShort items.taken record fields)
  | v :: left => (decode v).map fun x => (x, ⟨left, items.taken + 1⟩)

def finish (items : Items) : Decoded Unit :=
  if items.left.isEmpty then .ok () else .error (.tooLong (items.taken + items.left.length))

end Items

def asRecord {α : Type} (name : Text) (ofMembers : Members → Decoded α)
    (ofItems : Items → Decoded (α × Items)) : Json → Decoded α
  | .obj members => ofMembers members
  | .arr items => do
    let (x, rest) ← ofItems (.ofList items)
    rest.finish
    return x
  | v => .error (.mismatch v (.record name))

inductive Shape where
  | whole
  | texts
  | tag
  | record (fields : List (Text × Shape))

namespace Form

def isString : Form → Bool
  | .string _ => true
  | _ => false

mutual

/-- The part of a form that has the shape: a record loses the members it does not name, and is
refused if it repeats one that it does; a table is refused for any member that is no string, even
if a later one has its key; a tag has a single member. -/
def select? : Shape → Form → Option Form
  | .record fields, .object members => selectMembers? fields members []
  | .record fields, .array items => selectItems? (fields.map (·.2)) items []
  | .texts, .object members =>
    if members.all (·.2.isString) then some (.object members) else none
  | .tag, .object members => if members.length = 1 then some (.object members) else none
  | _, f => some f

def selectItems? : List Shape → List Form → List Form → Option Form
  | _, [], out => some (.array out.reverse)
  | shapes, f :: rest, out =>
    match select? (shapes.headD .whole) f with
    | none => none
    | some g => selectItems? shapes.tail rest (g :: out)

def selectMembers? (fields : List (Text × Shape)) :
    List (Spelling × Form) → List (Spelling × Form) → Option Form
  | [], out => some (.object out.reverse)
  | (k, f) :: rest, out =>
    match k.text? with
    | none => none
    | some key =>
      match fields.lookup key with
      | none => selectMembers? fields rest out
      | some shape =>
        if out.any (·.1.text? = some key) then none
        else match select? shape f with
          | none => none
          | some g => selectMembers? fields rest ((k, g) :: out)

end

end Form

class Decodable (α : Type) where
  shape : Shape
  decode : Json → Decoded α

def decodeText? {α : Type} [Decodable α] (s : Text) : Option α :=
  (Form.read? s).bind fun f =>
    (f.select? (Decodable.shape α)).bind fun g =>
      (g.value? maxDepth).bind fun v => (Decodable.decode v : Decoded α).toOption

end TemplateServer.Json
