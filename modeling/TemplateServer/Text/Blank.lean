import TemplateServer.Text.Basic

/-! What is trimmed, and the other notion of space that a list block uses. -/

namespace TemplateServer.Text

def isBlank (c : Char) : Bool :=
  ('\t' ≤ c && c ≤ '\r') || c == ' ' || c == '\u0085' || c == '\u00a0' || c == '\u1680' ||
    ('\u2000' ≤ c && c ≤ '\u200a') || c == '\u2028' || c == '\u2029' || c == '\u202f' ||
    c == '\u205f' || c == '\u3000'

def trimStart (s : Text) : Text := s.dropWhile isBlank

def trimEnd (s : Text) : Text := (s.reverse.dropWhile isBlank).reverse

def trim (s : Text) : Text := trimEnd (trimStart s)

def isSpace (c : Char) : Bool := (isBlank c && c != '\u0085') || c == '\ufeff'

def endsLine (c : Char) : Bool := c == '\n' || c == '\r' || c == '\u2028' || c == '\u2029'

def isWord (c : Char) : Bool := c.isAlphanum || c == '_'

end TemplateServer.Text
