import TemplateServer.Decimal.Shortest

namespace TemplateServer

/-- A JSON value. Members stand in the order in which they are written; values that were read have
them sorted by key, each key once. -/
inductive Json where
  | null
  | bool (b : Bool)
  | int (n : Int)
  | double (x : Binary64)
  | str (s : Text)
  | arr (items : List Json)
  | obj (members : List (Text × Json))
  deriving BEq, Repr

namespace Json

abbrev Members := List (Text × Json)

namespace Members

def insert (key : Text) (value : Json) : Members → Members
  | [] => [(key, value)]
  | (k, v) :: rest =>
    if key = k then (key, value) :: rest
    else if key < k then (key, value) :: (k, v) :: rest
    else (k, v) :: insert key value rest

def get? (members : Members) (key : Text) : Option Json := members.lookup key

theorem get?_insert_self (key : Text) (value : Json) (members : Members) :
    get? (insert key value members) key = some value := by
  induction members with
  | nil => simp [insert, get?]
  | cons m rest ih =>
    obtain ⟨k, v⟩ := m
    simp only [insert]
    split
    · simp [get?]
    · split
      · simp [get?]
      · rename_i h _
        simpa [get?, List.lookup_cons, beq_false_of_ne h] using ih

theorem get?_insert_of_ne {key other : Text} (h : other ≠ key) (value : Json) (members : Members) :
    get? (insert key value members) other = get? members other := by
  induction members with
  | nil => simp [insert, get?, List.lookup_cons, beq_false_of_ne h]
  | cons m rest ih =>
    obtain ⟨k, v⟩ := m
    simp only [insert]
    split
    · rename_i e
      subst e
      simp [get?, List.lookup_cons, beq_false_of_ne h]
    · split
      · simp [get?, List.lookup_cons, beq_false_of_ne h]
      · simp only [get?, List.lookup_cons] at ih ⊢
        split <;> simp_all

end Members

def object (members : Members) : Json :=
  .obj (members.foldl (fun ms m => Members.insert m.1 m.2 ms) [])

def texts (ss : List Text) : Json := .arr (ss.map .str)

def controlEscape (c : Char) : Text :=
  "\\u00" ++ [Nat.digitChar (c.toNat / 16), Nat.digitChar (c.toNat % 16)]

def escapeChar (c : Char) : Text :=
  if c = '"' then "\\\""
  else if c = '\\' then "\\\\"
  else if c = '\x08' then "\\b"
  else if c = '\x0c' then "\\f"
  else if c = '\n' then "\\n"
  else if c = '\r' then "\\r"
  else if c = '\t' then "\\t"
  else if c < ' ' then controlEscape c
  else [c]

def quote (s : Text) : Text := '"' :: s.flatMap escapeChar ++ ['"']

def emitKey (key out : Text) : Text := ':' :: (quote key).reverse ++ out

mutual

/-- The text so far stands last character first. -/
def emit : Json → Text → Text
  | .null, out => "llun".toList ++ out
  | .bool true, out => "eurt".toList ++ out
  | .bool false, out => "eslaf".toList ++ out
  | .int n, out => (Text.ofInt n).reverse ++ out
  | .double x, out => x.text.reverse ++ out
  | .str s, out => (quote s).reverse ++ out
  | .arr [], out => ']' :: '[' :: out
  | .arr (v :: rest), out => emitItems rest (emit v ('[' :: out))
  | .obj [], out => '\x7d' :: '\x7b' :: out
  | .obj ((k, v) :: rest), out => emitMembers rest (emit v (emitKey k ('\x7b' :: out)))

def emitItems : List Json → Text → Text
  | [], out => ']' :: out
  | v :: rest, out => emitItems rest (emit v (',' :: out))

def emitMembers : List (Text × Json) → Text → Text
  | [], out => '\x7d' :: out
  | (k, v) :: rest, out => emitMembers rest (emit v (emitKey k (',' :: out)))

end

def text (v : Json) : Text := (emit v []).reverse

end Json

end TemplateServer
