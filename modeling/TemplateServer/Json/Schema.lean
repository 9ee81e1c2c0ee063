import TemplateServer.Json.Form

/-! Schemas, which are JSON values themselves; a check gives the first violation. -/

namespace TemplateServer.Json

inductive Kind where
  | array
  | boolean
  | integer
  | null
  | number
  | object
  | string
  deriving DecidableEq, Repr

namespace Kind

def all : List Kind := [array, boolean, integer, null, number, object, string]

def name : Kind → Text
  | array => "array"
  | boolean => "boolean"
  | integer => "integer"
  | null => "null"
  | number => "number"
  | object => "object"
  | string => "string"

def ofName? (name : Text) : Option Kind := all.find? (·.name = name)

def isWhole (x : Binary64) : Bool := x.ratio.1 % x.ratio.2 == 0

def holds : Kind → Json → Bool
  | array, .arr _ => true
  | boolean, .bool _ => true
  | integer, .int _ => true
  | integer, .double x => isWhole x
  | null, .null => true
  | number, .int _ => true
  | number, .double _ => true
  | object, .obj _ => true
  | string, .str _ => true
  | _, _ => false

end Kind

def equalsInt (n : Int) (x : Binary64) : Bool :=
  n.natAbs * x.ratio.2 == x.ratio.1 && (n < 0) == (x.isNegative && !x.isZero)

mutual

def same : Json → Json → Bool
  | .null, .null => true
  | .bool a, .bool b => a == b
  | .int a, .int b => a == b
  | .int a, .double y => equalsInt a y
  | .double x, .int b => equalsInt b x
  | .double x, .double y => x == y || (x.isZero && y.isZero)
  | .str a, .str b => a == b
  | .arr a, .arr b => sameItems a b
  | .obj a, .obj b => sameMembers a b
  | _, _ => false

def sameItems : List Json → List Json → Bool
  | [], [] => true
  | a :: as, b :: bs => same a b && sameItems as bs
  | _, _ => false

def sameMembers : List (Text × Json) → List (Text × Json) → Bool
  | [], [] => true
  | (k, a) :: as, (l, b) :: bs => k == l && same a b && sameMembers as bs
  | _, _ => false

end

/-- What a value must satisfy. `others` is asked of the members that `properties` does not name; a
`closed` schema allows no such member at all. -/
inductive Schema where
  | anything
  | never
  | rules (kinds : Option (List Kind)) (choices : Option (List Json)) (minLength : Nat)
      (required : List Text) (properties : List (Text × Schema)) (closed : Bool)
      (others : Option Schema)

inductive Violation where
  | forbidden (v : Json)
  | kind (v : Json) (kinds : List Kind)
  | choice (v : Json) (choices : List Json)
  | short (v : Json) (least : Nat)
  | absent (member : Text)
  | unexpected (member : Text)
  deriving BEq, Repr

inductive SchemaError where
  | noSchema
  | violation (v : Violation)
  deriving BEq, Repr

namespace Schema

structure Draft where
  kinds : Option (List Kind) := none
  choices : Option (List Json) := none
  minLength : Nat := 0
  required : List Text := []
  properties : Option (List (Text × Schema)) := none
  others : Option Schema := none

/-- A schema with a list of properties, be it empty, that allows no others is closed. Without such a
list each member has to satisfy what nothing satisfies. -/
def Draft.closed (d : Draft) : Bool :=
  match d.properties, d.others with
  | some _, some never => true
  | _, _ => false

def Draft.schema (d : Draft) : Schema :=
  rules d.kinds d.choices d.minLength d.required (d.properties.getD []) d.closed d.others

def kind? : Json → Option Kind
  | .str s => Kind.ofName? s
  | _ => none

def text? : Json → Option Text
  | .str s => some s
  | _ => none

def allDistinct {α : Type} [DecidableEq α] (xs : List α) : Bool := xs.eraseDups.length == xs.length

def kinds? : Json → Option (List Kind)
  | .arr vs =>
    ((vs.mapM kind?).filter fun ks => !ks.isEmpty && allDistinct ks).map fun ks =>
      Kind.all.filter ks.contains
  | v => (kind? v).map ([·])

def names? : Json → Option (List Text)
  | .arr vs => (vs.mapM text?).filter allDistinct
  | _ => none

def maxLength : Nat := UInt64.size - 1

def length? : Json → Option Nat
  | .int n => if 0 ≤ n then some (min n.toNat maxLength) else none
  | .double x =>
    if Kind.isWhole x && (!x.isNegative || x.isZero) then
      some (min (x.ratio.1 / x.ratio.2) maxLength)
    else none
  | _ => none

def keyword? (d : Draft) (keyword : Text) (argument : Json) : Option Draft :=
  if keyword = "type" then (kinds? argument).map fun ks => { d with kinds := some ks }
  else if keyword = "required" then (names? argument).map fun ns => { d with required := ns }
  else if keyword = "minLength" then (length? argument).map fun n => { d with minLength := n }
  else if keyword = "enum" then
    match argument with
    | .arr vs => some { d with choices := some vs }
    | _ => none
  else some d

mutual

def ofJson? : Json → Option Schema
  | .bool true => some anything
  | .bool false => some never
  | .obj members => (members? {} members).map Draft.schema
  | _ => none

def members? (d : Draft) : List (Text × Json) → Option Draft
  | [] => some d
  | (k, v) :: rest =>
    if k = "additionalProperties" then
      match ofJson? v with
      | none => none
      | some s => members? { d with others := some s } rest
    else if k = "properties" then
      match v with
      | .obj ps =>
        match properties? [] ps with
        | none => none
        | some ps => members? { d with properties := some ps } rest
      | _ => none
    else
      match keyword? d k v with
      | none => none
      | some d => members? d rest

def properties? (out : List (Text × Schema)) : List (Text × Json) → Option (List (Text × Schema))
  | [] => some out.reverse
  | (k, v) :: rest =>
    match ofJson? v with
    | none => none
    | some s => properties? ((k, s) :: out) rest

end

def ofKinds? (kinds : Option (List Kind)) (v : Json) : Option Violation :=
  kinds.bind fun ks => if ks.any (·.holds v) then none else some (.kind v ks)

def ofChoices? (choices : Option (List Json)) (v : Json) : Option Violation :=
  choices.bind fun vs => if vs.any (same v) then none else some (.choice v vs)

def ofLength? (least : Nat) (v : Json) : Option Violation :=
  match v with
  | .str s => if s.length < least then some (.short v least) else none
  | _ => none

def ofRequired? (required : List Text) (members : Members) : Option Violation :=
  (required.find? fun name => (members.get? name).isNone).map .absent

mutual

def violation? : Schema → Json → Option Violation
  | anything, _ => none
  | never, v => some (.forbidden v)
  | rules kinds choices minLength required properties closed others, v =>
    ofKinds? kinds v <|> ofChoices? choices v <|> ofLength? minLength v <|>
      match v with
      | .obj members =>
        ofRequired? required members <|> members.findSome? fun m =>
          match ofProperties? properties m.1 m.2 with
          | some found => found
          | none => if closed then some (.unexpected m.1) else ofOthers? others m.2
      | _ => none

def ofProperties? : List (Text × Schema) → Text → Json → Option (Option Violation)
  | [], _, _ => none
  | (k, s) :: rest, member, v =>
    if k = member then some (violation? s v) else ofProperties? rest member v

def ofOthers? : Option Schema → Json → Option Violation
  | none, _ => none
  | some s, v => violation? s v

end

def check (schema value : Json) : Except SchemaError Unit :=
  match ofJson? schema with
  | none => .error .noSchema
  | some s =>
    match s.violation? value with
    | none => .ok ()
    | some v => .error (.violation v)

end Schema

namespace Violation

def commas (items : List Text) : Text := ", ".toList.intercalate items

def choicesText (choices : List Text) : Text :=
  match choices with
  | [] => []
  | [a] => a
  | [a, b] => a ++ " or " ++ b
  | [a, b, c] => a ++ ", " ++ b ++ " or " ++ c
  | a :: b :: rest => a ++ ", " ++ b ++ " or " ++ Text.ofNat rest.length ++ " other candidates"

def doubleQuoted (s : Text) : Text := '"' :: s ++ ['"']

def singleQuoted (s : Text) : Text := '\'' :: s ++ ['\'']

def message : Violation → Text
  | forbidden v => "False schema does not allow " ++ v.text
  | kind v [k] => v.text ++ " is not of type " ++ doubleQuoted k.name
  | kind v ks => v.text ++ " is not of types " ++ commas (ks.map fun k => doubleQuoted k.name)
  | choice v vs => v.text ++ " is not one of " ++ choicesText (vs.map Json.text)
  | short v least =>
    v.text ++ " is shorter than " ++ Text.ofNat least ++
      (if least = 1 then " character" else " characters")
  | absent member => quote member ++ " is a required property"
  | unexpected member =>
    "Additional properties are not allowed (" ++ singleQuoted member ++ " was unexpected)"

end Violation

def SchemaError.message : SchemaError → Text
  | noSchema => "Schema compile error"
  | violation v => v.message

end TemplateServer.Json
