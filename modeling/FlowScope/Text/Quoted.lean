import FlowScope.Text.Unprintable

/-!
# Texts in quotes

Two written forms of a text, each between double quotes:

* `Text.quoted` is for people: unprintable characters are shown as their hexadecimal number;
* `Text.jsonQuoted` is the JSON form: only quotes, backslashes and controls are escaped.
-/

namespace FlowScope.Text

/-- A number in lower-case hexadecimal digits, without leading zeros. -/
def hexadecimal (n : Nat) : String := String.ofList (Nat.toDigits 16 n)

/-- One character of a text in quotes. -/
def quotedChar (c : Char) : String :=
  if c = '"' then "\\\"" else if c = '\\' then "\\\\"
  else if c = '\t' then "\\t" else if c = '\n' then "\\n" else if c = '\r' then "\\r"
  else if c.toNat = 0 then "\\0"
  else if isUnprintable c then "\\u\x7b" ++ hexadecimal c.toNat ++ "\x7d"
  else c.toString

/-- A text in quotes, as messages show it. -/
def quoted (text : String) : String := "\"" ++ String.join (text.toList.map quotedChar) ++ "\""

/-- One character of a JSON string. -/
def jsonChar (c : Char) : String :=
  if c = '"' then "\\\"" else if c = '\\' then "\\\\"
  else if c.toNat = 8 then "\\b" else if c = '\t' then "\\t" else if c = '\n' then "\\n"
  else if c.toNat = 12 then "\\f" else if c = '\r' then "\\r"
  else if c.toNat < 16 then "\\u000" ++ hexadecimal c.toNat
  else if c.toNat < 32 then "\\u00" ++ hexadecimal c.toNat
  else c.toString

/-- A text as a JSON string. -/
def jsonQuoted (text : String) : String := "\"" ++ String.join (text.toList.map jsonChar) ++ "\""

end FlowScope.Text
