import QueryLayout.Text.Printable

namespace QueryLayout

/-- A number in base sixteen, with zeros in front up to the given width. -/
def hexDigits (width code : Nat) : List Char :=
  let digits := Nat.toDigits 16 code
  List.replicate (width - digits.length) '0' ++ digits

/-- Single quotes, unless the text holds one and no double quote. -/
def displayQuote (text : List Char) : Char :=
  if text.contains '\x27' && !text.contains '\x22' then '\x22' else '\x27'

/-- A character as it stands between the quotes of a display. Whatever cannot
be shown is written with its code point. -/
def displayChar (quote c : Char) : List Char :=
  if c = quote ∨ c = '\\' then ['\\', c]
  else if c = '\n' then ['\\', 'n']
  else if c = '\r' then ['\\', 'r']
  else if c = '\t' then ['\\', 't']
  else if isPrintable c then [c]
  else if c.toNat < 0x100 then ['\\', 'x'] ++ hexDigits 2 c.toNat
  else if c.toNat < 0x10000 then ['\\', 'u'] ++ hexDigits 4 c.toNat
  else ['\\', 'U'] ++ hexDigits 8 c.toNat

/-- A text in quotes on one line, from which it can be read back. -/
def displayText (text : List Char) : List Char :=
  let quote := displayQuote text
  [quote] ++ text.flatMap (displayChar quote) ++ [quote]

def displayString (text : String) : String :=
  String.ofList (displayText text.toList)

end QueryLayout
