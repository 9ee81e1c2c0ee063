import TemplateServer.Text.Blank

/-! Templates: a body and the lists of options that fill its placeholders. -/

namespace TemplateServer

structure OptionList where
  name : Text
  options : List Text
  deriving DecidableEq, Repr

structure Template where
  lists : List OptionList
  body : Text
  deriving DecidableEq, Repr

namespace Template

def lines (source : Text) : List Text := (Text.pieces '\n' source).map Text.trim

def isPlain (line : Text) : Bool :=
  !line.isEmpty && line.head? != some '<' && !line.contains '['

def declares (line : Text) : Bool := isPlain line && !line.contains '|'

def offers (line : Text) : Bool := isPlain line && line.contains '|'

def optionsOf (line : Text) : List Text := (Text.pieces '|' line).map Text.trim

/-- The lists read so far, in order of first declaration, and the place among them of the one that
options now go to. -/
structure Scan where
  lists : List OptionList
  active : Option Nat
  deriving DecidableEq, Repr

namespace Scan

def start : Scan := ⟨[], none⟩

def declare (scan : Scan) (name : Text) : Scan :=
  match scan.lists.findIdx? (·.name = name) with
  | some i => ⟨scan.lists.modify i fun l => { l with options := [] }, some i⟩
  | none => ⟨scan.lists ++ [⟨name, []⟩], some scan.lists.length⟩

def offer (scan : Scan) (options : List Text) : Scan :=
  match scan.active with
  | none => scan
  | some i =>
    { scan with lists := scan.lists.modify i fun l => { l with options := l.options ++ options } }

def line (scan : Scan) (line : Text) : Scan :=
  if declares line then scan.declare line
  else if offers line then scan.offer (optionsOf line)
  else scan

end Scan

def bodyOf (source : Text) : Text :=
  match lines source with
  | [] | [] :: _ => source
  | first :: _ => first

def parse (source : Text) : Template where
  lists := ((lines source).foldl Scan.line Scan.start).lists
  body := bodyOf source

def list? (t : Template) (name : Text) : Option OptionList := t.lists.find? (·.name = name)

theorem declares_eq_false_of_offers {line : Text} (h : offers line) : declares line = false := by
  simp_all [offers, declares]

end Template

end TemplateServer
