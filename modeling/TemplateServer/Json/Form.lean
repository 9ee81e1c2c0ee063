import TemplateServer.Json.Token

/-! The written form of a JSON text: what the grammar alone tells. -/

namespace TemplateServer.Json

inductive Form where
  | null
  | bool (b : Bool)
  | number (n : Numeral)
  | string (s : Spelling)
  | array (items : List Form)
  | object (members : List (Spelling × Form))
  deriving Repr

namespace Form

inductive Frame where
  | array (items : List Form)
  | object (members : List (Spelling × Form)) (key : Spelling)

inductive State where
  | value (frames : List Frame)
  | firstItem (frames : List Frame)
  | firstMember (frames : List Frame)
  | key (members : List (Spelling × Form)) (frames : List Frame)
  | colon (members : List (Spelling × Form)) (key : Spelling) (frames : List Frame)
  | done (f : Form) (frames : List Frame)

namespace State

def readValue (frames : List Frame) : Token → Option State
  | .null => some (done .null frames)
  | .bool b => some (done (.bool b) frames)
  | .number n => some (done (.number n) frames)
  | .string s => some (done (.string s) frames)
  | .openArray => some (firstItem frames)
  | .openObject => some (firstMember frames)
  | _ => none

def readKey (members : List (Spelling × Form)) (frames : List Frame) : Token → Option State
  | .string s => some (colon members s frames)
  | _ => none

def next : State → Token → Option State
  | value fs, t => readValue fs t
  | firstItem fs, .closeArray => some (done (.array []) fs)
  | firstItem fs, t => readValue (.array [] :: fs) t
  | firstMember fs, .closeObject => some (done (.object []) fs)
  | firstMember fs, t => readKey [] fs t
  | key ms fs, t => readKey ms fs t
  | colon ms k fs, .colon => some (value (.object ms k :: fs))
  | colon _ _ _, _ => none
  | done f (.array items :: fs), .comma => some (value (.array (f :: items) :: fs))
  | done f (.array items :: fs), .closeArray => some (done (.array (f :: items).reverse) fs)
  | done f (.object ms k :: fs), .comma => some (key ((k, f) :: ms) fs)
  | done f (.object ms k :: fs), .closeObject => some (done (.object ((k, f) :: ms).reverse) fs)
  | done _ _, _ => none

def form? : State → Option Form
  | done f [] => some f
  | _ => none

end State

def ofTokens? (ts : List Token) : Option Form := (ts.foldlM State.next (.value [])).bind State.form?

def read? (s : Text) : Option Form := (Token.scan s).bind ofTokens?

mutual

/-- The value of a form. It opens at most `depth` arrays and objects within one another, pairs its
surrogates, and keeps its numbers in range; of a repeated key the last member counts. -/
def value? : Nat → Form → Option Json
  | _, .null => some .null
  | _, .bool b => some (.bool b)
  | _, .number n => n.value?
  | _, .string s => s.text?.map .str
  | 0, .array _ => none
  | depth + 1, .array items => items? depth items []
  | 0, .object _ => none
  | depth + 1, .object members => members? depth members []

def items? (depth : Nat) : List Form → List Json → Option Json
  | [], vs => some (.arr vs.reverse)
  | f :: rest, vs =>
    match value? depth f with
    | none => none
    | some v => items? depth rest (v :: vs)

def members? (depth : Nat) : List (Spelling × Form) → Json.Members → Option Json
  | [], ms => some (.obj ms)
  | (k, f) :: rest, ms =>
    match k.text?, value? depth f with
    | some key, some v => members? depth rest (ms.insert key v)
    | _, _ => none

end

end Form

def maxDepth : Nat := 127

def read? (s : Text) : Option Json := (Form.read? s).bind (Form.value? maxDepth)

end TemplateServer.Json
