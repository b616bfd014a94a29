namespace PascalCheck.Text.Utf8

inductive Flaw where
  | badStart
  | badContinuation
  | cutShort
deriving DecidableEq, Repr

def Flaw.message : Flaw → String
  | .badStart => "invalid start byte"
  | .badContinuation => "invalid continuation byte"
  | .cutShort => "unexpected end of data"

def encode (chars : List Char) : List UInt8 := chars.flatMap String.utf8EncodeChar

-- The byte order mark, which may stand in front of a text and is no part of it.
def mark : List UInt8 := [0xEF,0xBB,0xBF]

-- What a first byte announces: its share of the code point, how many bytes follow, and the least
-- and greatest of the first that follows. Those bounds keep out overlong forms, surrogates, and
-- what lies past the last code point.
structure Lead where
  share : Nat
  following : Nat
  least : UInt8
  greatest : UInt8
deriving DecidableEq, Repr

def lead? (b : UInt8) : Option Lead :=
  if b < 0x80 then some ⟨b.toNat,0,0x80,0xBF⟩
  else if b < 0xC2 then none
  else if b < 0xE0 then some ⟨b.toNat - 0xC0,1,0x80,0xBF⟩
  else if b == 0xE0 then some ⟨0,2,0xA0,0xBF⟩
  else if b == 0xED then some ⟨0xD,2,0x80,0x9F⟩
  else if b < 0xF0 then some ⟨b.toNat - 0xE0,2,0x80,0xBF⟩
  else if b == 0xF0 then some ⟨0,3,0x90,0xBF⟩
  else if b < 0xF4 then some ⟨b.toNat - 0xF0,3,0x80,0xBF⟩
  else if b == 0xF4 then some ⟨4,3,0x80,0x8F⟩
  else none

-- The bytes that follow a first byte, added to its share six bits at a time.
def continued (value : Nat) (least greatest : UInt8) : Nat → List UInt8 → Except Flaw (Nat × List UInt8)
  | 0,bytes => .ok (value,bytes)
  | _ + 1,[] => .error .cutShort
  | owed + 1,b :: bytes =>
    if least ≤ b ∧ b ≤ greatest then continued (64 * value + (b.toNat - 0x80)) 0x80 0xBF owed bytes
    else .error .badContinuation

theorem continued_length {value : Nat} {least greatest : UInt8} {owed : Nat} {bytes : List UInt8}
    {result : Nat × List UInt8} (read : continued value least greatest owed bytes = .ok result) :
    result.2.length ≤ bytes.length := by
  induction owed generalizing value least greatest bytes with
  | zero => cases read; exact Nat.le_refl _
  | succ owed ih =>
    cases bytes with
    | nil => cases read
    | cons b bytes =>
      rw [continued] at read
      split at read
      · exact Nat.le_succ_of_le (ih read)
      · cases read

-- The first flaw, in reading order, is the one that is told.
def decode (bytes : List UInt8) : Except Flaw (List Char) :=
  match bytes with
  | [] => .ok []
  | b :: rest =>
    match lead? b with
    | none => .error .badStart
    | some lead =>
      match _ : continued lead.share lead.least lead.greatest lead.following rest with
      | .error flaw => .error flaw
      | .ok (value,left) => (decode left).map (Char.ofNat value :: ·)
termination_by bytes.length
decreasing_by
  have shorter := continued_length ‹_›
  simp only [List.length_cons] at *
  omega

-- One mark in front is dropped. Bytes that only begin a mark, and end there, are an empty text.
def decodeMarked (bytes : List UInt8) : Except Flaw (List Char) :=
  if mark.isPrefixOf bytes then decode (bytes.drop 3)
  else if bytes.isPrefixOf mark then .ok []
  else decode bytes

end PascalCheck.Text.Utf8
