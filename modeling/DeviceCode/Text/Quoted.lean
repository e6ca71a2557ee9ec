import DeviceCode.Text.Hex
import DeviceCode.Text.Unseen

/-!
# Quoted text

Messages show a path between quotes. Quotes, backslashes and the common control characters are
written with a backslash; every other character that would not be seen on its own is written as its
number in braces.
-/

namespace DeviceCode.Text

/-- One character between quotes. -/
def quotedChar (c : Char) : String :=
  if c = '"' then "\\\""
  else if c = '\\' then "\\\\"
  else if c = '\t' then "\\t"
  else if c = '\r' then "\\r"
  else if c = '\n' then "\\n"
  else if c = '\x00' then "\\0"
  else if isUnseen c then "\\u\x7b" ++ hexDigits c.toNat ++ "\x7d"
  else c.toString

/-- A text between quotes. -/
def quoted (s : String) : String := "\"" ++ String.join (s.toList.map quotedChar) ++ "\""

end DeviceCode.Text
