import EdgeAgent.Text.Hex
import EdgeAgent.Text.Unprintable

/-! Text quoted for a message: between quotation marks, with the marks and backslashes in it
escaped, and every character without a shape of its own shown by its code point. -/

namespace EdgeAgent.Quoted

/-- A character of quoted text. -/
def escape (c : Char) : List Char :=
  if c = '\x00' then ['\\', '0']
  else if c = '\t' then ['\\', 't']
  else if c = '\r' then ['\\', 'r']
  else if c = '\n' then ['\\', 'n']
  else if c = '\\' then ['\\', '\\']
  else if c = '"' then ['\\', '"']
  else if isUnprintable c then ['\\', 'u', '\x7b'] ++ Hex.ofNat c.toNat ++ ['\x7d']
  else [c]

/-- A text between quotation marks. -/
def text (s : String) : String :=
  String.ofList ('"' :: (s.toList.flatMap escape ++ ['"']))

end EdgeAgent.Quoted
