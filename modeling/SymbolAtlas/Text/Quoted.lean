import SymbolAtlas.Text.Invisible

/-!
# Quoted text

A string between double quotes, with the quote, the backslash and what cannot be seen escaped. It
is how messages show text they were given.
-/

namespace SymbolAtlas.Text

/-- The hexadecimal digits of `n`, in lower case and without leading zeros. -/
def hex (n : Nat) : String := String.ofList (Nat.toDigits 16 n)

def quoteChar (c : Char) : String :=
  if c = '"' then "\\\""
  else if c = '\\' then "\\\\"
  else if c = '\t' then "\\t"
  else if c = '\n' then "\\n"
  else if c = '\r' then "\\r"
  else if c = '\x00' then "\\0"
  else if c.toNat < 32 || c.toNat = 127 || (127 < c.toNat && isInvisible c) then
    "\\u\x7b" ++ hex c.toNat ++ "\x7d"
  else c.toString

def quoted (s : String) : String := "\"" ++ String.join (s.toList.map quoteChar) ++ "\""

end SymbolAtlas.Text
