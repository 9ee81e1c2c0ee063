import TemplateServer.Text.Unprintable

namespace TemplateServer.Text

def hex (n : Nat) : Text := Nat.toDigits 16 n

def quotedChar (c : Char) : Text :=
  if c = '"' then "\\\""
  else if c = '\\' then "\\\\"
  else if c = '\n' then "\\n"
  else if c = '\r' then "\\r"
  else if c = '\t' then "\\t"
  else if c = '\x00' then "\\0"
  else if ' ' ≤ c && c ≤ '~' then [c]
  else if isUnprintable c then "\\u\x7b" ++ hex c.toNat ++ "\x7d"
  else [c]

def quoted (s : Text) : Text := '"' :: s.flatMap quotedChar ++ ['"']

end TemplateServer.Text
