import MessageSignatures.Text.Invisible

/-!
# Spelling out invisible characters

Messages show a text in quotes so that nothing in it is overlooked. `spelled` writes visible
characters as they are and the others by name or by number.
-/

namespace MessageSignatures

namespace Text

/-- How a character is shown between quotes. -/
def spellChar (c : Char) : String :=
  if c = '"' then "\\\""
  else if c = '\\' then "\\\\"
  else if c = '\t' then "\\t"
  else if c = '\n' then "\\n"
  else if c = '\r' then "\\r"
  else if c.toNat = 0 then "\\0"
  else if isVisible c then String.ofList [c]
  else "\\u\x7b" ++ String.ofList (Nat.toDigits 16 c.toNat) ++ "\x7d"

/-- **Spelled text.** In quotes, with nothing invisible left. -/
def spelled (s : String) : String :=
  "\"" ++ String.join (s.toList.map spellChar) ++ "\""

end Text

end MessageSignatures
