import ScriptSpend.Text.Hex
import ScriptSpend.Text.Invisible

/-!
# Quoted text

Diagnostics quote a piece of input between double quotes. The quote, the backslash and four controls
have short escapes; every other character without a mark of its own is written as its code point.
-/

namespace ScriptSpend.Quoted

/-- The written form of one character between the quotes. -/
def escape (c : Char) : String :=
  if c = '"' then "\\\""
  else if c = '\\' then "\\\\"
  else if c = '\t' then "\\t"
  else if c = '\n' then "\\n"
  else if c = '\r' then "\\r"
  else if c.toNat = 0 then "\\0"
  else if isInvisible c then "\\u\x7b" ++ Hex.ofNat c.toNat ++ "\x7d"
  else c.toString

/-- A text between double quotes. -/
def quote (text : String) : String := "\"" ++ String.join (text.toList.map escape) ++ "\""

end ScriptSpend.Quoted
