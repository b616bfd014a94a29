import Mathlib.Computability.Language
import PascalCheck.Token.Kind

namespace PascalCheck.Grammar
open scoped Computability

abbrev Phrases := Language TokenKind

def one (kind : TokenKind) : Phrases := {[kind]}

-- A phrase that may be left out. The star of a language stands for any number of repetitions.
def optional (phrase : Phrases) : Phrases := 1 + phrase

def term : Phrases := one .ident + one .number

def operator : Phrases := one .plus + one .minus + one .star + one .slash

def expression : Phrases := term * (operator * term)∗

def argument : Phrases := one .string + expression

def arguments : Phrases := optional (argument * (one .comma * argument)∗)

def selector : Phrases := one .lbracket * (one .number * one .rbracket) + one .dot * one .ident

def action : Phrases := one .assign * expression + one .lparen * (arguments * one .rparen)

def statement : Phrases := (one .ident + one .writelnWord) * (optional selector * optional action)

def furtherStatements : Phrases := (one .semi * optional statement)∗

def compound : Phrases := one .beginWord * (optional statement * furtherStatements * one .endWord)

def names : Phrases := one .ident * (one .comma * one .ident)∗

def standard : Phrases := one .ident + one .integerWord

def bounds : Phrases := one .lbracket * one .number * one .dotdot * one .number * one .rbracket

def array : Phrases := one .arrayWord * (bounds * one .ofWord * standard)

def fieldRow : Phrases := names * one .colon * standard * one .semi

def record : Phrases := one .recordWord * (fieldRow∗ * one .endWord)

def typeSpec : Phrases := array + (record + standard)

def variableRow : Phrases := names * one .colon * typeSpec * one .semi

def constantRow : Phrases := one .ident * (one .eq * one .number * one .semi)

def declarations : Phrases := one .varWord * variableRow∗ + one .constWord * constantRow∗

def heading : Phrases := one .programWord * (one .ident * one .semi)

def program : Phrases := optional heading * declarations∗ * compound * one .dot

-- There are such phrases, and each opens with one of some kinds.
structure Opens (kinds : List TokenKind) (phrases : Phrases) : Prop where
  inhabited : ∃ word, word ∈ phrases
  opening : ∀ word ∈ phrases, ∃ kind ∈ kinds, ∃ rest, word = kind :: rest

variable {first second : List TokenKind} {phrase other onward : Phrases}

theorem star_mul (phrase onward : Phrases) : phrase∗ * onward = onward + phrase * (phrase∗ * onward) := by
  rw [← mul_assoc,← one_add_mul,Language.one_add_self_mul_kstar_eq_kstar]

theorem optional_mul (phrase onward : Phrases) : optional phrase * onward = onward + phrase * onward :=
  one_add_mul phrase onward

theorem mem_one_mul {kind : TokenKind} {word : List TokenKind} :
    word ∈ one kind * onward ↔ ∃ rest ∈ onward, word = kind :: rest := by
  constructor
  · intro member
    obtain ⟨_,rfl,rest,held,rfl⟩ := Language.mem_mul.mp member
    exact ⟨rest,held,rfl⟩
  · rintro ⟨rest,held,rfl⟩
    exact Language.append_mem_mul (a := [kind]) rfl held

theorem inhabited_mul (here : ∃ word, word ∈ phrase) (there : ∃ word, word ∈ onward) :
    ∃ word, word ∈ phrase * onward := by
  obtain ⟨word,held⟩ := here
  obtain ⟨rest,after⟩ := there
  exact ⟨word ++ rest,Language.append_mem_mul held after⟩

namespace Opens

theorem one (kind : TokenKind) : Opens [kind] (one kind) :=
  ⟨⟨[kind],rfl⟩,fun word same => ⟨kind,by simp,[],same⟩⟩

theorem mono (opens : Opens first phrase) (more : first ⊆ second) : Opens second phrase := by
  refine ⟨opens.inhabited,fun word member => ?_⟩
  obtain ⟨kind,held,rest,same⟩ := opens.opening word member
  exact ⟨kind,more held,rest,same⟩

theorem mul (opens : Opens first phrase) (there : ∃ word, word ∈ onward) : Opens first (phrase * onward) := by
  refine ⟨inhabited_mul opens.inhabited there,fun word member => ?_⟩
  obtain ⟨_,here,after,_,rfl⟩ := Language.mem_mul.mp member
  obtain ⟨kind,held,rest,rfl⟩ := opens.opening _ here
  exact ⟨kind,held,rest ++ after,rfl⟩

theorem either (here : Opens first phrase) (there : Opens second other) :
    Opens (first ++ second) (phrase + other) := by
  refine ⟨?_,?_⟩
  · obtain ⟨word,member⟩ := here.inhabited
    exact ⟨word,Or.inl member⟩
  · rintro word (member | member)
    · obtain ⟨kind,held,rest,same⟩ := here.opening word member
      exact ⟨kind,List.mem_append_left _ held,rest,same⟩
    · obtain ⟨kind,held,rest,same⟩ := there.opening word member
      exact ⟨kind,List.mem_append_right _ held,rest,same⟩

theorem optional (here : Opens first phrase) (there : Opens second onward) :
    Opens (second ++ first) (optional phrase * onward) := by
  rw [optional_mul]
  exact there.either (here.mul there.inhabited)

theorem star (here : Opens first phrase) (there : Opens second onward) :
    Opens (second ++ first) (phrase∗ * onward) := by
  have again : ∃ word, word ∈ phrase∗ * onward := inhabited_mul ⟨[],Language.nil_mem_kstar _⟩ there.inhabited
  rw [star_mul]
  exact there.either (here.mul again)

end Opens

theorem inhabited_one (kind : TokenKind) : ∃ word, word ∈ one kind := ⟨[kind],rfl⟩

theorem inhabited_star (phrase : Phrases) : ∃ word, word ∈ phrase∗ := ⟨[],Language.nil_mem_kstar _⟩

theorem inhabited_optional (phrase : Phrases) : ∃ word, word ∈ optional phrase := ⟨[],Or.inl rfl⟩

theorem opens_term : Opens [.ident,.number] term := (Opens.one _).either (.one _)

theorem opens_operator : Opens [.plus,.minus,.star,.slash] operator :=
  (((Opens.one _).either (.one _)).either (.one _)).either (.one _)

theorem opens_expression : Opens [.ident,.number] expression := opens_term.mul (inhabited_star _)

theorem opens_argument : Opens [.string,.ident,.number] argument := (Opens.one _).either opens_expression

theorem opens_index : Opens [.lbracket] (one .lbracket * (one .number * one .rbracket)) :=
  (Opens.one _).mul (inhabited_mul (inhabited_one _) (inhabited_one _))

theorem opens_field : Opens [.dot] (one .dot * one .ident) := (Opens.one _).mul (inhabited_one _)

theorem opens_assignment : Opens [.assign] (one .assign * expression) := (Opens.one _).mul opens_expression.inhabited

theorem opens_call : Opens [.lparen] (one .lparen * (arguments * one .rparen)) :=
  (Opens.one _).mul (inhabited_mul (inhabited_optional _) (inhabited_one _))

theorem opens_action : Opens [.assign,.lparen] action := opens_assignment.either opens_call

theorem opens_subject : Opens [.ident,.writelnWord] (one .ident + one .writelnWord) := (Opens.one _).either (.one _)

theorem opens_statement : Opens [.ident,.writelnWord] statement :=
  opens_subject.mul (inhabited_mul (inhabited_optional _) (inhabited_optional _))

theorem opens_compound : Opens [.beginWord] compound :=
  (Opens.one _).mul (inhabited_mul (inhabited_mul (inhabited_optional _) (inhabited_star _)) (inhabited_one _))

theorem opens_names : Opens [.ident] names := (Opens.one _).mul (inhabited_star _)

theorem opens_standard : Opens [.ident,.integerWord] standard := (Opens.one _).either (.one _)

theorem opens_bounds : Opens [.lbracket] bounds :=
  ((((Opens.one _).mul (inhabited_one _)).mul (inhabited_one _)).mul (inhabited_one _)).mul (inhabited_one _)

theorem opens_array : Opens [.arrayWord] array :=
  (Opens.one _).mul ((opens_bounds.mul (inhabited_one _)).mul opens_standard.inhabited).inhabited

theorem opens_fieldRow : Opens [.ident] fieldRow :=
  ((opens_names.mul (inhabited_one _)).mul opens_standard.inhabited).mul (inhabited_one _)

theorem opens_record : Opens [.recordWord] record :=
  (Opens.one _).mul (inhabited_mul (inhabited_star _) (inhabited_one _))

theorem opens_typeSpec : Opens [.arrayWord,.recordWord,.ident,.integerWord] typeSpec :=
  opens_array.either (opens_record.either opens_standard)

theorem opens_variableRow : Opens [.ident] variableRow :=
  ((opens_names.mul (inhabited_one _)).mul opens_typeSpec.inhabited).mul (inhabited_one _)

theorem opens_constantRow : Opens [.ident] constantRow :=
  (Opens.one _).mul (inhabited_mul (inhabited_mul (inhabited_one _) (inhabited_one _)) (inhabited_one _))

theorem opens_varSection : Opens [.varWord] (one .varWord * variableRow∗) := (Opens.one _).mul (inhabited_star _)

theorem opens_constSection : Opens [.constWord] (one .constWord * constantRow∗) := (Opens.one _).mul (inhabited_star _)

theorem opens_declarations : Opens [.varWord,.constWord] declarations := opens_varSection.either opens_constSection

theorem opens_heading : Opens [.programWord] heading :=
  (Opens.one _).mul (inhabited_mul (inhabited_one _) (inhabited_one _))

def starters : List TokenKind := [.programWord,.varWord,.constWord,.beginWord]

theorem opens_program : Opens starters program := by
  have ending : Opens [.beginWord] (compound * one .dot) := opens_compound.mul (inhabited_one _)
  have parts : Opens ([.beginWord] ++ [.varWord,.constWord] ++ [.programWord])
      (optional heading * (declarations∗ * (compound * one .dot))) :=
    opens_heading.optional (opens_declarations.star ending)
  rw [← mul_assoc,← mul_assoc] at parts
  exact parts.mono (by decide)

def Single (phrase : Phrases) : Prop := ∀ word ∈ phrase, word.length = 1

theorem single_one (kind : TokenKind) : Single (one kind) := by
  intro word same
  rw [show word = [kind] from same]
  rfl

theorem Single.either (here : Single phrase) (there : Single other) : Single (phrase + other) := by
  intro word member
  cases member with
  | inl member => exact here word member
  | inr member => exact there word member

theorem single_operator : Single operator :=
  (((single_one _).either (single_one _)).either (single_one _)).either (single_one _)

end PascalCheck.Grammar
