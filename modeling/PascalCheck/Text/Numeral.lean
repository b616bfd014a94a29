import PascalCheck.Text.Blank

namespace PascalCheck.Text

-- The zero of each script; its nine other digits follow it.
def zeros : List Nat := [0x30,
  0x660,0x6F0,0x7C0,0x966,0x9E6,0xA66,0xAE6,0xB66,0xBE6,0xC66,0xCE6,0xD66,0xDE6,0xE50,0xED0,0xF20,0x1040,
  0x1090,0x17E0,0x1810,0x1946,0x19D0,0x1A80,0x1A90,0x1B50,0x1BB0,0x1C40,0x1C50,0xA620,0xA8D0,0xA900,0xA9D0,
  0xA9F0,0xAA50,0xABF0,0xFF10,0x104A0,0x10D30,0x11066,0x110F0,0x11136,0x111D0,0x112F0,0x11450,0x114D0,
  0x11650,0x116C0,0x11730,0x118E0,0x11950,0x11C50,0x11D50,0x11DA0,0x16A60,0x16AC0,0x16B50,0x1D7CE,0x1D7D8,
  0x1D7E2,0x1D7EC,0x1D7F6,0x1E140,0x1E2F0,0x1E950,0x1FBF0]

def digitValue? (c : Char) : Option Nat :=
  (zeros.find? fun least => least ≤ c.toNat && c.toNat ≤ least + 9).map fun least => c.toNat - least

def valueOf (digits : List Nat) : Nat := digits.foldl (fun value digit => 10 * value + digit) 0

-- No number is read from more digits than this, leading zeros included.
def maxDigits : Nat := 4300

-- Digits with at most one underscore between two of them.
def groupedDigits? : List Char → Option (List Nat)
  | [] => none
  | [c] => (digitValue? c).map fun digit => [digit]
  | c :: '_' :: rest => do return (← digitValue? c) :: (← groupedDigits? rest)
  | c :: rest => do return (← digitValue? c) :: (← groupedDigits? rest)

-- Blank around a number: of the ASCII characters only the space and those from tab to carriage return.
def isMargin (c : Char) : Bool :=
  if c.toNat < 128 then c == ' ' || ('\t' ≤ c && c ≤ '\r') else isBlank c

def readInteger? (text : String) : Option Int := do
  let (negative,body) := match stripBy isMargin text.toList with
    | '-' :: rest => (true,rest)
    | '+' :: rest => (false,rest)
    | rest => (false,rest)
  let digits ← groupedDigits? body
  if maxDigits < digits.length then none
  else if negative then some (-valueOf digits) else some (valueOf digits)

end PascalCheck.Text
