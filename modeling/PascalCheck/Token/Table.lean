import PascalCheck.Text.Padded
import PascalCheck.Token.Wire

namespace PascalCheck.TokenKind

def row (kind : TokenKind) : String :=
  String.ofList (Text.toRight 3 (toString kind.code).toList) ++ ": " ++
    String.ofList (Text.toLeft 10 kind.name.toList) ++ " " ++ kind.spelling ++
    match kind.wireAlias? with
    | some code => "  (wire: " ++ toString code ++ ")"
    | none => ""

-- A heading with the number of kinds, then a row for each by ascending code.
def table : String :=
  let rows := ("token kinds: " ++ toString all.length) :: all.map row
  String.join (rows.map (· ++ "\n"))

end PascalCheck.TokenKind
