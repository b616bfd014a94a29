import PascalCheck.Token.Basic

namespace PascalCheck

namespace TokenKind

-- On the wire two kinds borrow another one's code: the type word that of in, a string that of =.
def wireAlias? : TokenKind → Option Nat
  | .integerWord => some inWord.code
  | .string => some eq.code
  | _ => none

def wireCode (wire : Bool) (kind : TokenKind) : Nat :=
  if wire then kind.wireAlias?.getD kind.code else kind.code

end TokenKind

def renderCodes (wire : Bool) (tokens : List Token) : String :=
  " ".intercalate (tokens.map fun token => toString (token.kind.wireCode wire))

end PascalCheck
