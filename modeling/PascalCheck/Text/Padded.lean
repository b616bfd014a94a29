namespace PascalCheck.Text

def fill (c : Char) (width : Nat) (text : List Char) : List Char := List.replicate (width - text.length) c

-- Zeros stand between the sign and the digits, and the sign counts.
def zeroPadded (width : Nat) (n : Int) : List Char :=
  let digits := (toString n.natAbs).toList
  if n < 0 then '-' :: (fill '0' (width - 1) digits ++ digits) else fill '0' width digits ++ digits

def toRight (width : Nat) (text : List Char) : List Char := fill ' ' width text ++ text

def toLeft (width : Nat) (text : List Char) : List Char := text ++ fill ' ' width text

end PascalCheck.Text
