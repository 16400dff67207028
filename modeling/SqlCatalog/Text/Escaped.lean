-- SUMMARY: Text between double quotes, with escapes for what cannot be shown.
import SqlCatalog.Text.Invisible
import SqlCatalog.Text.Mark

/-!
# Escaped text

Double quotes, backslashes, invisible characters and extending marks are written
as escapes; everything else stands for itself. So what is shown between the
quotes is exactly what the text holds.
-/

namespace SqlCatalog.Text

/-- A code point in hexadecimal, between braces. -/
def codePointEscape (c : Char) : String :=
  "\\u\x7b" ++ String.ofList (Nat.toDigits 16 c.toNat) ++ "\x7d"

def escapeChar (c : Char) : String :=
  if c = '\x22' then "\\\""
  else if c = '\\' then "\\\\"
  else if c = '\n' then "\\n"
  else if c = '\r' then "\\r"
  else if c = '\t' then "\\t"
  else if c = '\x00' then "\\0"
  else if isInvisible c || isExtendingMark c then codePointEscape c
  else String.singleton c

def doubleQuoted (text : String) : String :=
  "\"" ++ String.join (text.toList.map escapeChar) ++ "\""

end SqlCatalog.Text
