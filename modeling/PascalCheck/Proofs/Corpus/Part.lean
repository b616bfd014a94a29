import PascalCheck.Proofs.Corpus.Word

namespace PascalCheck.Corpus
open Grammar
open scoped Computability

theorem apart_cons {c : Char} {others : List Char} (odd : Text.isWordChar c = false) : Apart (c :: others) := by
  intro d found
  cases found
  exact odd

theorem spells_space : Spells Anyhow [' '] 1 := .blank rfl (by decide)

theorem spells_semi : Spells Anyhow [';'] (one .semi) := Spells.lone rfl (by decide)

theorem spells_comma : Spells Anyhow [',',' '] (one .comma) :=
  (Spells.lone rfl (by decide)).after spells_space fun _ _ => trivial

theorem spells_colon : Spells Anyhow [':',' '] (one .colon) :=
  (Spells.joined rfl (by decide) (by decide)).after spells_space fun _ _ => rfl

theorem spells_equals : Spells Anyhow " = ".toList (one .eq) :=
  spells_space.before ((Spells.lone (a := '=') rfl (by decide)).after spells_space
    fun _ _ => trivial) fun _ _ => trivial

theorem spells_assign : Spells Anyhow " := ".toList (one .assign) :=
  spells_space.before ((Spells.pair rfl).after spells_space fun _ _ => trivial)
    fun _ _ => trivial

-- A text that stands well behind an opening bracket or a dot.
def Calm (text : Word) : Prop := ∃ first others, text = first :: others ∧ first ≠ '*' ∧ first ≠ '.'

theorem calm_of_lettered {text others : Word} {first : Char} (same : text = first :: others)
    (letter : Text.isLetter first = true) : Calm text := by
  refine ⟨first,others,same,?_,?_⟩
  · exact Text.ne_of_test letter rfl
  · exact Text.ne_of_test letter rfl

theorem calm_decimal (value : Nat) : Calm (decimal value) := by
  obtain ⟨some,all,_⟩ := decimal_digits value
  obtain ⟨first,others,same⟩ := List.exists_cons_of_ne_nil some
  have digit : Text.isDigit first = true := all first (same ▸ List.mem_cons_self)
  refine ⟨first,others,same,?_,?_⟩
  · exact Text.ne_of_test digit rfl
  · exact Text.ne_of_test digit rfl

theorem ensures_operand : Draw.Ensures Draw.operand fun operand => Spells Apart operand.text term ∧ Calm operand.text := by
  refine Draw.Ensures.andThen (Draw.ensures_any _) fun named _ => ?_
  cases named with
  | true =>
    refine Draw.Ensures.andThen ensures_name fun word held => Draw.ensures_give ⟨?_,?_⟩
    · exact held.spells.mono fun _ same => Or.inl same
    · obtain ⟨first,others,same,letter⟩ := held.lettered
      exact calm_of_lettered same letter
  | false =>
    refine Draw.Ensures.andThen ensures_number fun value small => Draw.ensures_give ⟨?_,calm_decimal value⟩
    exact (spells_decimal small).mono fun _ same => Or.inr same

theorem spells_sign {sign : Char} (known : sign ∈ ['+','-','*','/']) : Spells Anyhow [sign] operator := by
  rcases List.mem_cons.mp known with rfl | known
  · exact (Spells.lone rfl (by decide)).mono fun _ same => Or.inl (Or.inl (Or.inl same))
  rcases List.mem_cons.mp known with rfl | known
  · exact (Spells.lone rfl (by decide)).mono fun _ same => Or.inl (Or.inl (Or.inr same))
  rcases List.mem_cons.mp known with rfl | known
  · exact (Spells.lone rfl (by decide)).mono fun _ same => Or.inl (Or.inr same)
  · rw [List.mem_singleton.mp known]
    exact (Spells.lone rfl (by decide)).mono fun _ same => Or.inr same

theorem spells_operation {sign : Char} {text : Word} (known : sign ∈ ['+','-','*','/']) (spells : Spells Apart text term) :
    Spells Apart (' ' :: sign :: ' ' :: text) (operator * term) := by
  have spaced := spells_space.before ((spells_sign known).after spells_space fun _ _ => trivial) fun _ _ => trivial
  exact spaced.append spells fun _ _ => trivial

theorem ensures_expression : Draw.Ensures Draw.expression fun expression =>
    Spells Apart expression.text Grammar.expression ∧ Calm expression.text := by
  refine Draw.Ensures.andThen (Draw.ensures_between (Nat.zero_le 3)) fun more _ => ?_
  refine Draw.Ensures.andThen ensures_operand fun first held => ?_
  refine Draw.Ensures.andThen (ensures_operand.times more) fun operands all => ?_
  refine Draw.Ensures.andThen (Draw.Ensures.times (Draw.ensures_pick fun _ known => known) more) fun signs known => ?_
  refine Draw.ensures_give ⟨?_,?_⟩
  · have each : ∀ part ∈ signs.zip operands, Spells Apart (' ' :: part.1 :: ' ' :: part.2.text) (operator * term) := by
      intro part member
      obtain ⟨sign,operand⟩ := List.of_mem_zip member
      exact spells_operation (known.2 _ sign) (all.2 _ operand).1
    obtain ⟨others,joint⟩ := Spells.many each fun _ _ _ => apart_cons rfl
    exact held.1.append others joint
  · obtain ⟨c,others,same,star,dot⟩ := held.2
    exact ⟨c,others ++ _,by rw [Expression.text,same]; rfl,star,dot⟩

theorem spells_separated {near : List Char → Prop} {between : Word} {texts : List Word} {phrase other : Phrases}
    (each : ∀ text ∈ texts, Spells near text phrase) (mid : Spells Anyhow between other)
    (joint : ∀ onward, near (between ++ onward)) (some : texts ≠ []) :
    Spells near (separated between texts) (phrase * (other * phrase)∗) := by
  induction texts with
  | nil => exact absurd rfl some
  | cons text others ih =>
    obtain ⟨here,there⟩ := List.forall_mem_cons.mp each
    cases others with
    | nil =>
      refine here.mono fun word member => ?_
      have both := Language.append_mem_mul member (Language.nil_mem_kstar (other * phrase))
      rwa [List.append_nil] at both
    | cons next rest =>
      have first := here.append mid fun onward _ => joint onward
      refine (first.append (ih there (List.cons_ne_nil _ _)) fun _ _ => trivial).widen ?_
      rw [mul_assoc,← mul_assoc other]
      exact mul_le_mul' le_rfl mul_kstar_le_kstar

theorem calm_separated {between : Word} {texts : List Word} (each : ∀ text ∈ texts, Calm text) :
    separated between texts = [] ∨ Calm (separated between texts) := by
  cases texts with
  | nil => exact Or.inl rfl
  | cons text others =>
    have here := each text List.mem_cons_self
    cases others with
    | nil => exact Or.inr here
    | cons next rest =>
      obtain ⟨first,more,rfl,star,dot⟩ := here
      exact Or.inr ⟨first,_,rfl,star,dot⟩

theorem ensures_argument : Draw.Ensures Draw.argument fun argument =>
    Spells Apart argument.asText Grammar.argument ∧ Calm argument.asText := by
  refine Draw.Ensures.andThen (Draw.ensures_any _) fun quoted _ => ?_
  cases quoted with
  | true =>
    refine Draw.Ensures.andThen (ensures_phrase 10) fun body mild => Draw.ensures_give ⟨?_,?_⟩
    · exact ((spells_quoted mild).narrow fun _ _ => trivial).mono fun _ same => Or.inl same
    · exact ⟨'\'',body ++ ['\''],rfl,by decide,by decide⟩
  | false =>
    refine Draw.Ensures.andThen ensures_expression fun value held => Draw.ensures_give ⟨?_,held.2⟩
    exact held.1.mono fun _ member => Or.inr member

theorem spells_arguments {texts : List Word} (each : ∀ text ∈ texts, Spells Apart text Grammar.argument) :
    Spells Apart (separated [',',' '] texts) arguments := by
  by_cases some : texts = []
  · rw [some]
    exact Spells.nil.mono fun _ empty => Or.inl empty
  · exact (spells_separated each spells_comma (fun _ => apart_cons rfl) some).mono fun _ member => Or.inr member

theorem le_optional (phrase : Phrases) : phrase ≤ optional phrase := le_add_self

theorem one_le_optional (phrase : Phrases) : 1 ≤ optional phrase := le_self_add

theorem spells_write : Spells (fun onward => onward.head? ≠ some '*') "writeln(".toList (one .writelnWord * one .lparen) := by
  have word : Spells Apart "writeln".toList (one .writelnWord) := .word rfl rfl rfl
  have bracket : Spells (fun onward => onward.head? ≠ some '*') ['('] (one .lparen) :=
    .ofSegment (.mark ['('] .lparen) (by decide) (fun _ single => .bracket single) rfl (Segment.short_of_head rfl) rfl
  exact word.append bracket fun _ _ => apart_cons rfl

theorem spells_writeStatement {made : List Argument}
    (all : ∀ argument ∈ made, Spells Apart argument.asText Grammar.argument ∧ Calm argument.asText) :
    Spells Apart (Statement.write made).text Grammar.statement := by
  have spelled := spells_arguments (List.forall_mem_map.mpr fun argument member => (all argument member).1)
  have closed : Spells Anyhow (separated [',',' '] (made.map Argument.asText) ++ [')']) (arguments * one .rparen) :=
    spelled.append (Spells.lone rfl (by decide)) fun _ _ => apart_cons rfl
  have joint : ∀ onward, (separated [',',' '] (made.map Argument.asText) ++ [')'] ++ onward).head? ≠ some '*' := by
    intro onward
    have calm : ∀ text ∈ made.map Argument.asText, Calm text :=
      List.forall_mem_map.mpr fun argument member => (all argument member).2
    rcases calm_separated calm with none | ⟨first,others,same,star,_⟩
    · rw [none]
      exact fun found => absurd (Option.some.inj found) (by decide)
    · rw [same]
      exact fun found => star (Option.some.inj found)
  have whole := spells_write.append closed fun onward _ => joint onward
  have same : (Statement.write made).text =
      "writeln(".toList ++ (separated [',',' '] (made.map Argument.asText) ++ [')']) := List.append_assoc _ _ _
  rw [same]
  refine (whole.narrow fun _ _ => trivial).widen ?_
  calc one .writelnWord * one .lparen * (arguments * one .rparen)
      = one .writelnWord * (1 * (one .lparen * (arguments * one .rparen))) := by rw [one_mul,mul_assoc]
    _ ≤ (one .ident + one .writelnWord) * (optional selector * optional action) := by
      refine mul_le_mul' le_add_self (mul_le_mul' (one_le_optional _) ?_)
      exact le_trans le_add_self (le_optional action)

theorem ensures_writeStatement : Draw.Ensures Draw.writeStatement fun statement =>
    Spells Apart statement.text Grammar.statement := by
  refine Draw.Ensures.andThen (Draw.ensures_between (Nat.zero_le 3)) fun count _ => ?_
  refine Draw.Ensures.andThen (ensures_argument.times count) fun made all => Draw.ensures_give ?_
  exact spells_writeStatement all.2

theorem spells_field {part : Word} (named : Named part) : Spells Apart ('.' :: part) (one .dot * one .ident) := by
  obtain ⟨first,others,rfl,letter⟩ := named.lettered
  have apart : TokenKind.mark? ['.',first] = none := by
    refine Option.eq_none_iff_forall_ne_some.mpr fun kind known => ?_
    have same : first = '.' := by simpa using TokenKind.mark_pair known
    exact Text.ne_of_test letter rfl same
  exact (Spells.joined rfl (by decide) apart).append named.spells fun _ _ => rfl

theorem ensures_target (drawn : Fin (1 <<< 53)) : Draw.Ensures (Draw.target drawn) fun target =>
    Spells Apart target.text (one .ident * optional selector) := by
  refine Draw.Ensures.andThen ensures_name fun word named => ?_
  split
  · refine Draw.Ensures.andThen ensures_number fun index small => Draw.ensures_give ?_
    have opened : Spells Apart ('[' :: decimal index) (one .lbracket * one .number) :=
      (Spells.lone rfl (by decide)).append (spells_decimal small) fun _ _ => trivial
    have closed := (named.spells.append opened fun _ _ => apart_cons rfl).append
      (Spells.lone (a := ']') rfl (by decide)) fun _ _ => apart_cons rfl
    refine (closed.narrow fun _ _ => trivial).widen ?_
    rw [mul_assoc,mul_assoc]
    exact mul_le_mul' le_rfl (le_trans le_self_add (le_optional selector))
  · split
    · refine Draw.Ensures.andThen ensures_name fun part other => Draw.ensures_give ?_
      refine (named.spells.append (spells_field other) fun _ _ => apart_cons rfl).widen ?_
      exact mul_le_mul' le_rfl (le_trans le_add_self (le_optional selector))
    · refine Draw.ensures_give (named.spells.widen ?_)
      calc one .ident = one .ident * 1 := (mul_one _).symm
        _ ≤ one .ident * optional selector := mul_le_mul' le_rfl (one_le_optional _)

theorem ensures_assignment (drawn : Fin (1 <<< 53)) : Draw.Ensures (Draw.assignment drawn) fun statement =>
    Spells Apart statement.text Grammar.statement := by
  refine Draw.Ensures.andThen (ensures_target drawn) fun target place => ?_
  refine Draw.Ensures.andThen ensures_expression fun value held => Draw.ensures_give ?_
  have whole := (place.append spells_assign fun _ _ => apart_cons rfl).append held.1 fun _ _ => trivial
  refine whole.widen ?_
  rw [mul_assoc,mul_assoc]
  refine mul_le_mul' le_self_add (mul_le_mul' le_rfl ?_)
  exact le_trans le_self_add (le_optional action)

theorem ensures_statement : Draw.Ensures Draw.statement fun statement =>
    Spells Apart statement.text Grammar.statement := by
  refine Draw.Ensures.andThen (Draw.ensures_any _) fun drawn _ => ?_
  split
  · exact ensures_writeStatement
  · exact ensures_assignment drawn

end PascalCheck.Corpus
