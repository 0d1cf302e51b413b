import RuleEngine.Text.GraphemeExtend
import RuleEngine.Text.Unprintable

/-!
# Escaped text for diagnostics

Tab, carriage return, line feed, NUL, backslash and double quote get a backslash escape; a
character that is not printable or that joins the one before it is written `\u{hex}`.
-/

set_option autoImplicit false

namespace RuleEngine

namespace Text

/-- Lower-case hexadecimal digits of `n`, without leading zeros. -/
def hexString (n : Nat) : String :=
  String.ofList ((Nat.toDigits 16 n))

def isPrintable (c : Char) : Bool :=
  if c.toNat < 32 then false
  else if c.toNat < 127 then true
  else !CharRanges.unprintable.contains c

def escapeChar (c : Char) : String :=
  if c = '\t' then "\\t"
  else if c = '\r' then "\\r"
  else if c = '\n' then "\\n"
  else if c.toNat = 0 then "\\0"
  else if c = '\\' then "\\\\"
  else if c = '"' then "\\\""
  else if CharRanges.graphemeExtend.contains c || !isPrintable c then
    "\\u" ++ String.singleton (Char.ofNat 0x7B) ++ hexString c.toNat ++ String.singleton (Char.ofNat 0x7D)
  else String.singleton c

def escaped (s : String) : String :=
  "\"" ++ String.join (s.toList.map escapeChar) ++ "\""

end Text

end RuleEngine
