import TemplateServer.Text.Blank

/-! A quick check of a source: does it hold a list block, and a placeholder? -/

namespace TemplateServer

structure Report where
  valid : Bool
  message : Text
  deriving DecidableEq, Repr

namespace Template

def closesWord (s : Text) : Bool :=
  !(s.takeWhile Text.isWord).isEmpty && (s.dropWhile Text.isWord).head? == some ']'

def hasPlaceholder : Text → Bool
  | [] => false
  | c :: rest => (c == '[' && closesWord rest) || hasPlaceholder rest

/-- Spaces, then a run without line ends, then a line feed. A line feed inside the spaces, but not
the first of them, will do as well. -/
def continues (s : Text) : Bool :=
  match s with
  | [] => false
  | c :: rest =>
    Text.isSpace c &&
      ((rest.takeWhile Text.isSpace).contains '\n' ||
        (rest.dropWhile Text.isSpace).find? Text.endsLine == some '\n')

def startsBlock (s : Text) : Bool :=
  !(s.takeWhile Text.isWord).isEmpty &&
    match s.dropWhile Text.isWord with
    | '\n' :: rest => continues rest
    | _ => false

def hasListBlock : Text → Bool
  | [] => false
  | c :: rest => (c == '\n' && startsBlock rest) || hasListBlock rest

end Template

namespace Report

def validMessage : Text := "Code appears valid"

def invalidMessage : Text :=
  "Code may have syntax errors. Ensure proper list definitions and placeholder brackets."

def ofProbes (placeholder listBlock : Bool) : Report :=
  -- what the first probe finds is of no consequence
  let valid := listBlock && (placeholder || !placeholder)
  ⟨valid, if valid then validMessage else invalidMessage⟩

def ofSource (source : Text) : Report :=
  ofProbes (Template.hasPlaceholder source) (Template.hasListBlock source)

end Report

end TemplateServer
