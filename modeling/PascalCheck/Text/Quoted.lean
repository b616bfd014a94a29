import PascalCheck.Text.Printable

namespace PascalCheck.Text

def hexDigit (n : Nat) : Char := if n < 10 then Char.ofNat (48 + n) else Char.ofNat (87 + n)

def hexDigits (n : Nat) : Nat → List Char
  | 0 => []
  | width + 1 => hexDigits (n / 16) width ++ [hexDigit (n % 16)]

-- The backslash and the mark itself are escaped; a hidden character is spelled by its code point,
-- in as many digits as its size needs.
def quotedChar (mark c : Char) : List Char :=
  if c = '\\' then ['\\','\\']
  else if c = mark then ['\\',mark]
  else if c = '\t' then ['\\','t']
  else if c = '\n' then ['\\','n']
  else if c = '\r' then ['\\','r']
  else if isPrintable c then [c]
  else if c.toNat < 0x100 then '\\' :: 'x' :: hexDigits c.toNat 2
  else if c.toNat < 0x10000 then '\\' :: 'u' :: hexDigits c.toNat 4
  else '\\' :: 'U' :: hexDigits c.toNat 8

-- Double marks stand around a text that holds a single mark and no double one.
def markFor (chars : List Char) : Char := if '\'' ∈ chars ∧ '"' ∉ chars then '"' else '\''

def quoted (text : String) : String :=
  let mark := markFor text.toList
  String.ofList (mark :: text.toList.flatMap (quotedChar mark) ++ [mark])

end PascalCheck.Text
