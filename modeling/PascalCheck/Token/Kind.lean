namespace PascalCheck

-- First the four kinds without a fixed lexeme; eof stands for the place past the last token.
-- Then the marks, and then the reserved words.
inductive TokenKind where
  | eof | ident | number | string
  | colon | lparen | rparen | lbracket | rbracket | semi | eq | plus | minus | star | comma | dotdot
  | ne | lt | le | gt | ge | slash | assign | dot
  | caseWord | elseWord | gotoWord | typeWord | withWord | thenWord | untilWord | doWord | ifWord
  | fileWord | inWord | ofWord | orWord | toWord | endWord | varWord | divWord | andWord | notWord
  | forWord | modWord | nilWord | setWord | beginWord | whileWord | arrayWord | constWord
  | labelWord | downtoWord | packedWord | recordWord | repeatWord | programWord | functionWord
  | procedureWord | writelnWord | integerWord
deriving DecidableEq, Repr

namespace TokenKind

def all : List TokenKind := [
  .eof,.ident,.colon,.lparen,.rparen,.lbracket,.rbracket,.semi,.number,.eq,.plus,.minus,.star,.comma,
  .dotdot,.caseWord,.elseWord,.gotoWord,.typeWord,.withWord,.ne,.lt,.le,.gt,.ge,.slash,.assign,
  .thenWord,.untilWord,.doWord,.ifWord,.fileWord,.dot,.string,.inWord,.ofWord,.orWord,.toWord,.endWord,
  .varWord,.divWord,.andWord,.notWord,.forWord,.modWord,.nilWord,.setWord,.beginWord,.whileWord,
  .arrayWord,.constWord,.labelWord,.downtoWord,.packedWord,.recordWord,.repeatWord,.programWord,
  .functionWord,.procedureWord,.writelnWord,.integerWord
]

def code : TokenKind → Nat
  | .eof => 0
  | .ident => 2
  | .colon => 5
  | .lparen => 9
  | .rparen => 10
  | .lbracket => 11
  | .rbracket => 12
  | .semi => 14
  | .number => 15
  | .eq => 16
  | .plus => 17
  | .minus => 18
  | .star => 19
  | .comma => 20
  | .dotdot => 21
  | .caseWord => 31
  | .elseWord => 32
  | .gotoWord => 33
  | .typeWord => 34
  | .withWord => 37
  | .ne => 38
  | .lt => 39
  | .le => 40
  | .gt => 41
  | .ge => 42
  | .slash => 50
  | .assign => 51
  | .thenWord => 52
  | .untilWord => 53
  | .doWord => 54
  | .ifWord => 56
  | .fileWord => 57
  | .dot => 61
  | .string => 84
  | .inWord => 100
  | .ofWord => 101
  | .orWord => 102
  | .toWord => 103
  | .endWord => 104
  | .varWord => 105
  | .divWord => 106
  | .andWord => 107
  | .notWord => 108
  | .forWord => 109
  | .modWord => 110
  | .nilWord => 111
  | .setWord => 112
  | .beginWord => 113
  | .whileWord => 114
  | .arrayWord => 115
  | .constWord => 116
  | .labelWord => 117
  | .downtoWord => 118
  | .packedWord => 119
  | .recordWord => 120
  | .repeatWord => 121
  | .programWord => 122
  | .functionWord => 123
  | .procedureWord => 124
  | .writelnWord => 125
  | .integerWord => 126

def name : TokenKind → String
  | .eof => "EOF"
  | .ident => "IDENT"
  | .colon => "COLON"
  | .lparen => "LPAREN"
  | .rparen => "RPAREN"
  | .lbracket => "LBRACKET"
  | .rbracket => "RBRACKET"
  | .semi => "SEMI"
  | .number => "NUMBER"
  | .eq => "EQ"
  | .plus => "PLUS"
  | .minus => "MINUS"
  | .star => "STAR"
  | .comma => "COMMA"
  | .dotdot => "DOTDOT"
  | .caseWord => "CASE"
  | .elseWord => "ELSE"
  | .gotoWord => "GOTO"
  | .typeWord => "TYPE"
  | .withWord => "WITH"
  | .ne => "NE"
  | .lt => "LT"
  | .le => "LE"
  | .gt => "GT"
  | .ge => "GE"
  | .slash => "SLASH"
  | .assign => "ASSIGN"
  | .thenWord => "THEN"
  | .untilWord => "UNTIL"
  | .doWord => "DO"
  | .ifWord => "IF"
  | .fileWord => "FILE"
  | .dot => "DOT"
  | .string => "STRING"
  | .inWord => "IN"
  | .ofWord => "OF"
  | .orWord => "OR"
  | .toWord => "TO"
  | .endWord => "END"
  | .varWord => "VAR"
  | .divWord => "DIV"
  | .andWord => "AND"
  | .notWord => "NOT"
  | .forWord => "FOR"
  | .modWord => "MOD"
  | .nilWord => "NIL"
  | .setWord => "SET"
  | .beginWord => "BEGIN"
  | .whileWord => "WHILE"
  | .arrayWord => "ARRAY"
  | .constWord => "CONST"
  | .labelWord => "LABEL"
  | .downtoWord => "DOWNTO"
  | .packedWord => "PACKED"
  | .recordWord => "RECORD"
  | .repeatWord => "REPEAT"
  | .programWord => "PROGRAM"
  | .functionWord => "FUNCTION"
  | .procedureWord => "PROCEDURE"
  | .writelnWord => "WRITELN"
  | .integerWord => "INTEGER"

def spelling : TokenKind → String
  | .eof => "end of file"
  | .ident => "identifier"
  | .colon => ":"
  | .lparen => "("
  | .rparen => ")"
  | .lbracket => "["
  | .rbracket => "]"
  | .semi => ";"
  | .number => "number"
  | .eq => "="
  | .plus => "+"
  | .minus => "-"
  | .star => "*"
  | .comma => ","
  | .dotdot => ".."
  | .caseWord => "case"
  | .elseWord => "else"
  | .gotoWord => "goto"
  | .typeWord => "type"
  | .withWord => "with"
  | .ne => "<>"
  | .lt => "<"
  | .le => "<="
  | .gt => ">"
  | .ge => ">="
  | .slash => "/"
  | .assign => ":="
  | .thenWord => "then"
  | .untilWord => "until"
  | .doWord => "do"
  | .ifWord => "if"
  | .fileWord => "file"
  | .dot => "."
  | .string => "string"
  | .inWord => "in"
  | .ofWord => "of"
  | .orWord => "or"
  | .toWord => "to"
  | .endWord => "end"
  | .varWord => "var"
  | .divWord => "div"
  | .andWord => "and"
  | .notWord => "not"
  | .forWord => "for"
  | .modWord => "mod"
  | .nilWord => "nil"
  | .setWord => "set"
  | .beginWord => "begin"
  | .whileWord => "while"
  | .arrayWord => "array"
  | .constWord => "const"
  | .labelWord => "label"
  | .downtoWord => "downto"
  | .packedWord => "packed"
  | .recordWord => "record"
  | .repeatWord => "repeat"
  | .programWord => "program"
  | .functionWord => "function"
  | .procedureWord => "procedure"
  | .writelnWord => "writeln"
  | .integerWord => "integer"

def marks : List TokenKind := [
  .colon,.lparen,.rparen,.lbracket,.rbracket,.semi,.eq,.plus,.minus,.star,.comma,.dotdot,.ne,.lt,.le,
  .gt,.ge,.slash,.assign,.dot
]

def words : List TokenKind := [
  .caseWord,.elseWord,.gotoWord,.typeWord,.withWord,.thenWord,.untilWord,.doWord,.ifWord,.fileWord,
  .inWord,.ofWord,.orWord,.toWord,.endWord,.varWord,.divWord,.andWord,.notWord,.forWord,.modWord,
  .nilWord,.setWord,.beginWord,.whileWord,.arrayWord,.constWord,.labelWord,.downtoWord,.packedWord,
  .recordWord,.repeatWord,.programWord,.functionWord,.procedureWord,.writelnWord,.integerWord
]

def ofCode? (code : Int) : Option TokenKind := all.find? fun kind => (kind.code : Int) == code

def mark? (lexeme : List Char) : Option TokenKind := marks.find? fun kind => kind.spelling.toList == lexeme

def reserved? (lexeme : List Char) : Option TokenKind := words.find? fun kind => kind.spelling.toList == lexeme

def unknownCode (code : Int) : String := toString code ++ " is not a valid TokenKind"

theorem ofCode_code (kind : TokenKind) : ofCode? kind.code = some kind := by cases kind <;> decide

end TokenKind

end PascalCheck
