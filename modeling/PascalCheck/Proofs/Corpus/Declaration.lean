import PascalCheck.Proofs.Corpus.Part

namespace PascalCheck.Corpus
open Grammar
open scoped Computability

theorem spells_feed : Spells Anyhow ['\n'] 1 := .blank rfl (by decide)

theorem spells_line {row : Word} {phrase : Phrases} (spells : Spells Apart row phrase) :
    Spells Anyhow (row ++ ['\n']) phrase := spells.after spells_feed fun _ _ => apart_cons rfl

theorem spells_indented {near : List Char → Prop} {row : Word} {phrase : Phrases} (spells : Spells near row phrase) :
    Spells near (indented row) phrase :=
  spells_space.before (spells_space.before spells fun _ _ => trivial) fun _ _ => trivial

theorem spells_opening : Spells Anyhow "array [".toList (one .arrayWord * one .lbracket) := by
  have word : Spells Apart "array".toList (one .arrayWord) := .word rfl rfl rfl
  have bracket : Spells Anyhow ['['] (one .lbracket) := Spells.lone rfl (by decide)
  exact word.append (spells_space.before bracket fun _ _ => trivial) fun _ _ => apart_cons rfl

theorem spells_closing : Spells Anyhow "] of ".toList (one .rbracket * one .ofWord) := by
  have bracket : Spells Anyhow [']'] (one .rbracket) := Spells.lone rfl (by decide)
  have word : Spells Apart "of".toList (one .ofWord) := .word rfl rfl rfl
  have behind := spells_space.before (word.after spells_space fun _ _ => apart_cons rfl) fun _ _ => trivial
  exact bracket.append behind fun _ _ => trivial

theorem ensures_arrayText : Draw.Ensures Draw.arrayText fun kind => Spells Apart kind.text Grammar.array := by
  refine Draw.Ensures.andThen (Draw.ensures_between (Nat.zero_le 10)) fun least low => ?_
  refine Draw.Ensures.andThen (Draw.ensures_between (Nat.zero_le 100)) fun span high => ?_
  refine Draw.Ensures.andThen ensures_standardName fun item standard => Draw.ensures_give ?_
  have dots : Spells Anyhow "..".toList (one .dotdot) := .pair rfl
  have first := spells_opening.append (@spells_decimal least (by omega)) fun _ _ => trivial
  have second := (first.append dots fun _ _ => apart_cons rfl).append (@spells_decimal (least + span) (by omega))
    fun _ _ => trivial
  have whole := (second.append spells_closing fun _ _ => apart_cons rfl).append standard fun _ _ => trivial
  refine whole.widen (le_of_eq ?_)
  rw [Grammar.array,bounds]
  simp only [mul_assoc]

theorem ensures_fieldText : Draw.Ensures Draw.fieldText fun field =>
    Spells Anyhow (field.1 ++ ": ".toList ++ field.2 ++ [';']) fieldRow := by
  refine Draw.Ensures.andThen ensures_name fun word named => ?_
  refine Draw.Ensures.andThen ensures_standardName fun kind standard => Draw.ensures_give ?_
  have left := (named.spells.append spells_colon fun _ _ => apart_cons rfl).append standard fun _ _ => trivial
  refine (left.append spells_semi fun _ _ => apart_cons rfl).widen ?_
  refine mul_le_mul' (mul_le_mul' (mul_le_mul' ?_ le_rfl) le_rfl) le_rfl
  calc one .ident = one .ident * 1 := (mul_one _).symm
    _ ≤ names := mul_le_mul' le_rfl one_le_kstar

theorem spells_fields {texts : List Word} (each : ∀ text ∈ texts, Spells Anyhow text fieldRow) :
    Spells Anyhow (separated [' '] texts) fieldRow∗ := by
  by_cases some : texts = []
  · rw [some]
    exact Spells.nil.widen one_le_kstar
  · refine (spells_separated each spells_space (fun _ => trivial) some).widen ?_
    rw [one_mul]
    exact mul_kstar_le_kstar

theorem ensures_recordText : Draw.Ensures Draw.recordText fun kind => Spells Apart kind.text Grammar.record := by
  refine Draw.Ensures.andThen (Draw.ensures_between (Nat.zero_le 3)) fun count _ => ?_
  refine Draw.Ensures.andThen (ensures_fieldText.times count) fun fields all => Draw.ensures_give ?_
  have word : Spells Apart "record".toList (one .recordWord) := .word rfl rfl rfl
  have last : Spells Apart "end".toList (one .endWord) := .word rfl rfl rfl
  have inner := spells_fields (List.forall_mem_map.mpr all.2)
  have opened := (word.after spells_space fun _ _ => apart_cons rfl).append inner fun _ _ => trivial
  have whole := opened.append (spells_space.before last fun _ _ => trivial) fun _ _ => trivial
  exact whole.widen (le_of_eq (mul_assoc _ _ _))

theorem ensures_typeText : Draw.Ensures Draw.typeText fun kind => Spells Apart kind.text typeSpec := by
  refine Draw.Ensures.andThen (Draw.ensures_any _) fun drawn _ => ?_
  split
  · exact fun kind allowed => (ensures_arrayText kind allowed).mono fun _ member => Or.inl member
  · split
    · exact fun kind allowed => (ensures_recordText kind allowed).mono fun _ member => Or.inr (Or.inl member)
    · refine Draw.Ensures.andThen ensures_standardName fun word standard => Draw.ensures_give ?_
      exact standard.mono fun _ member => Or.inr (Or.inr member)

theorem ensures_constantRow : Draw.Ensures Draw.constantRow fun row =>
    Spells Anyhow (indented (row.1 ++ " = ".toList ++ decimal row.2 ++ [';'])) Grammar.constantRow := by
  refine Draw.Ensures.andThen ensures_name fun word named => ?_
  refine Draw.Ensures.andThen ensures_number fun value small => Draw.ensures_give (spells_indented ?_)
  have left := (named.spells.append spells_equals fun _ _ => apart_cons rfl).append (spells_decimal small) fun _ _ => trivial
  refine (left.append spells_semi fun _ _ => apart_cons rfl).widen (le_of_eq ?_)
  rw [Grammar.constantRow]
  simp only [mul_assoc]

theorem ensures_variableRow : Draw.Ensures Draw.variableRow fun row =>
    Spells Anyhow (indented (separated [',',' '] row.1 ++ ": ".toList ++ row.2.text ++ [';'])) Grammar.variableRow := by
  refine Draw.Ensures.andThen (Draw.ensures_between (by decide)) fun count some => ?_
  refine Draw.Ensures.andThen (ensures_name.times count) fun words all => ?_
  refine Draw.Ensures.andThen ensures_typeText fun kind typed => Draw.ensures_give (spells_indented ?_)
  have more : words ≠ [] := by
    rintro rfl
    have zero : 0 = count := all.1
    omega
  have list := spells_separated (fun word member => (all.2 word member).spells) spells_comma (fun _ => apart_cons rfl) more
  have left := (list.append spells_colon fun _ _ => apart_cons rfl).append typed fun _ _ => trivial
  exact left.append spells_semi fun _ _ => apart_cons rfl

theorem spells_part {items : List α} {head : Word} {row : α → Word} {first : TokenKind} {phrase : Phrases}
    (word : Spells Apart head (one first)) (each : ∀ item ∈ items, Spells Anyhow (row item) phrase) :
    Spells Anyhow ((head :: items.map row).flatMap (· ++ ['\n'])) (one first * phrase∗) := by
  have lines : ∀ item ∈ items, Spells Anyhow (row item ++ ['\n']) phrase :=
    fun item member => (each item member).after spells_feed fun _ _ => trivial
  have inner := (Spells.many lines fun _ _ _ => trivial).1
  rw [List.flatMap_cons,List.flatMap_map]
  exact (spells_line word).append inner fun _ _ => trivial

theorem ensures_declarations : Draw.Ensures Draw.declarations fun part =>
    Spells Anyhow (part.rows.flatMap (· ++ ['\n'])) Grammar.declarations := by
  refine Draw.Ensures.andThen (Draw.ensures_any _) fun fixed _ => ?_
  cases fixed with
  | true =>
    refine Draw.Ensures.andThen (Draw.ensures_between (by decide)) fun count _ => ?_
    refine Draw.Ensures.andThen (ensures_constantRow.times count) fun rows all => Draw.ensures_give ?_
    have word : Spells Apart "const".toList (one .constWord) := .word rfl rfl rfl
    exact (spells_part word all.2).mono fun _ member => Or.inr member
  | false =>
    refine Draw.Ensures.andThen (Draw.ensures_between (by decide)) fun count _ => ?_
    refine Draw.Ensures.andThen (ensures_variableRow.times count) fun rows all => Draw.ensures_give ?_
    have word : Spells Apart "var".toList (one .varWord) := .word rfl rfl rfl
    exact (spells_part word all.2).mono fun _ member => Or.inl member

end PascalCheck.Corpus
