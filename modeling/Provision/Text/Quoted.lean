import Provision.Text.Printable

/-!
Quoted text.

A text is written between single quotes, or between double quotes if it has a single quote and no
double one. The quote in use and the backslash are written after a backslash, line feed, carriage
return and tab by their letters, and any other character that is not printable by its code in two,
four or eight hexadecimal digits. A list of texts is written between brackets (`bracketed`).
-/

namespace Provision.Text

/-- The lower-case hexadecimal digits of a code, at least `width` of them. -/
def hexDigits (width code : Nat) : String :=
  let digits := Nat.toDigits 16 code
  String.ofList (List.replicate (width - digits.length) '0' ++ digits)

/-- The quote a text is written between. -/
def quoteFor (s : List Char) : Char :=
  if s.contains '\'' && !s.contains '"' then '"' else '\''

/-- How a character is written between two of the given quotes. -/
def escape (quote : Char) (c : Char) : String :=
  if c = quote || c = '\\' then String.ofList ['\\', c]
  else if c = '\n' then "\\n"
  else if c = '\r' then "\\r"
  else if c = '\t' then "\\t"
  else if isPrintable c then String.singleton c
  else if c.toNat < 0x100 then "\\x" ++ hexDigits 2 c.toNat
  else if c.toNat < 0x10000 then "\\u" ++ hexDigits 4 c.toNat
  else "\\U" ++ hexDigits 8 c.toNat

/-- A text between quotes. -/
def quoted (s : String) : String :=
  let q := quoteFor s.toList
  String.singleton q ++ String.join (s.toList.map (escape q)) ++ String.singleton q

/-- Some texts between brackets, with commas. -/
def bracketed (items : List String) : String := "[" ++ ", ".intercalate items ++ "]"

end Provision.Text
