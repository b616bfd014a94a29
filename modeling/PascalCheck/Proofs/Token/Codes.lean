import PascalCheck.Proofs.Text.Numeral
import PascalCheck.Token.Wire

namespace PascalCheck

namespace TokenKind

-- On the wire the kinds that borrow a code pass for those that own it.
def onWire : TokenKind → TokenKind
  | .integerWord => .inWord
  | .string => .eq
  | kind => kind

def told (wire : Bool) (kind : TokenKind) : TokenKind := if wire then kind.onWire else kind

theorem code_told (wire : Bool) (kind : TokenKind) : (kind.told wire).code = kind.wireCode wire := by
  cases wire <;> cases kind <;> rfl

end TokenKind

-- The kinds whose codes stand in a text, with spaces in between. Two spaces have nothing between them to read.
def readCodes (text : String) : Option (List TokenKind) :=
  ((text.toList.splitOn ' ').filter (· ≠ [])).mapM fun digits => TokenKind.ofCode? (Text.digitsValue digits)

def codeDigits (wire : Bool) (token : Token) : List Char := (toString (token.kind.wireCode wire)).toList

theorem no_space_in_codeDigits (wire : Bool) (token : Token) : ' ' ∉ codeDigits wire token := by
  intro member
  cases (Text.digits_written _).2.1 ' ' member

theorem toList_renderCodes (wire : Bool) (tokens : List Token) :
    (renderCodes wire tokens).toList = [' '].intercalate (tokens.map (codeDigits wire)) := by
  rw [renderCodes,String.toList_intercalate,List.map_map]
  rfl

theorem parts_renderCodes (wire : Bool) (tokens : List Token) :
    ((renderCodes wire tokens).toList.splitOn ' ').filter (· ≠ []) = tokens.map (codeDigits wire) := by
  rw [toList_renderCodes]
  by_cases none : tokens = []
  · subst none
    rfl
  · have free : ∀ digits ∈ tokens.map (codeDigits wire), ' ' ∉ digits :=
      List.forall_mem_map.mpr fun token _ => no_space_in_codeDigits wire token
    have full : ∀ digits ∈ tokens.map (codeDigits wire), decide (digits ≠ []) = true :=
      List.forall_mem_map.mpr fun token _ => decide_eq_true (Text.digits_written _).1
    rw [List.splitOn_intercalate ' ' free (by simpa using none),List.filter_eq_self.mpr full]

theorem readCodes_renderCodes (wire : Bool) (tokens : List Token) :
    readCodes (renderCodes wire tokens) = some (tokens.map fun token => token.kind.told wire) := by
  have read : (fun digits : List Char => TokenKind.ofCode? (Text.digitsValue digits)) ∘ codeDigits wire =
      fun token => some (token.kind.told wire) := by
    funext token
    rw [Function.comp_apply,codeDigits,(Text.digits_written _).2.2,← TokenKind.code_told,TokenKind.ofCode_code]
  rw [readCodes,parts_renderCodes,List.mapM_map,read]
  exact List.mapM_pure

theorem renderCodes_eq_iff (wire : Bool) (first second : List Token) :
    renderCodes wire first = renderCodes wire second ↔
      first.map (fun token => token.kind.told wire) = second.map fun token => token.kind.told wire := by
  constructor
  · intro same
    have read := readCodes_renderCodes wire first
    rw [same,readCodes_renderCodes] at read
    exact (Option.some.inj read).symm
  · intro same
    have codes : ∀ tokens : List Token, renderCodes wire tokens =
        " ".intercalate ((tokens.map fun token => token.kind.told wire).map fun kind => toString kind.code) := by
      intro tokens
      rw [renderCodes,List.map_map]
      simp only [Function.comp_def,TokenKind.code_told]
    rw [codes,codes,same]

-- Plain output tells the kinds of the tokens and nothing else, and so does output on the wire of the kinds on it.
theorem codes_tell_kinds (first second : List Token) :
    (renderCodes false first = renderCodes false second ↔ first.map Token.kind = second.map Token.kind) ∧
      (renderCodes true first = renderCodes true second ↔
        first.map (fun token => token.kind.onWire) = second.map fun token => token.kind.onWire) ∧
      readCodes (renderCodes false first) = some (first.map Token.kind) :=
  ⟨renderCodes_eq_iff false first second,renderCodes_eq_iff true first second,readCodes_renderCodes false first⟩

end PascalCheck
