import PascalCheck.Position
import PascalCheck.Token.Kind

namespace PascalCheck

structure Token where
  kind : TokenKind
  position : Position
deriving DecidableEq, Repr

namespace Token

def code (token : Token) : Nat := token.kind.code

def described (token : Token) : String := "Token(" ++ token.kind.name ++ ", " ++ token.position.shown ++ ")"

end Token

end PascalCheck
