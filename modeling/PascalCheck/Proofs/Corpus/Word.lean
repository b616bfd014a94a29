import PascalCheck.Corpus.Sample
import PascalCheck.Proofs.Token.Spelling

namespace PascalCheck.Corpus

namespace Draw

def Ensures (plan : Draw α) (P : α → Prop) : Prop := ∀ made, Allows plan made → P made

theorem ensures_give {made : α} {P : α → Prop} (held : P made) : Ensures (.give made) P := by
  intro other allowed
  cases allowed
  exact held

theorem Ensures.andThen {plan : Draw α} {next : α → Draw β} {P : α → Prop} {Q : β → Prop} (first : Ensures plan P)
    (second : ∀ made, P made → Ensures (next made) Q) : Ensures (plan.andThen next) Q := by
  intro made allowed
  obtain ⟨middle,before,after⟩ := allows_andThen.mp allowed
  exact second middle (first middle before) made after

theorem ensures_between {least greatest : Nat} (order : least ≤ greatest) :
    Ensures (between least greatest) fun value => least ≤ value ∧ value ≤ greatest := by
  intro value allowed
  obtain _ | ⟨drawn,allowed⟩ := allowed
  cases allowed
  have bound := drawn.isLt
  omega

theorem ensures_any (plan : Draw α) : Ensures plan fun _ => True := fun _ _ => trivial

theorem ensures_pick {items : List α} {some : 0 < items.length} {P : α → Prop} (all : ∀ item ∈ items, P item) :
    Ensures (pick items some) P := by
  intro item allowed
  obtain _ | ⟨drawn,allowed⟩ := allowed
  cases allowed
  exact all _ (List.get_mem _ _)

theorem Ensures.times {plan : Draw α} {P : α → Prop} (each : Ensures plan P) (count : Nat) :
    Ensures (times count plan) fun items => items.length = count ∧ ∀ item ∈ items, P item := by
  induction count with
  | zero => exact ensures_give ⟨rfl,List.forall_mem_nil _⟩
  | succ count ih =>
    refine each.andThen fun made held => ih.andThen fun others rest => ensures_give ?_
    exact ⟨congrArg Nat.succ rest.1,List.forall_mem_cons.mpr ⟨held,rest.2⟩⟩

end Draw

structure Named (word : Word) : Prop where
  spells : Spells Apart word (Grammar.one .ident)
  lettered : ∃ first others, word = first :: others ∧ Text.isLetter first = true

theorem named_of_free {first : Char} {others : Word} (letter : Text.isLetter first = true)
    (all : ∀ c ∈ others, Text.isWordChar c = true)
    (free : TokenKind.reserved? ((first :: others).map Text.lowered) = none) : Named (first :: others) := by
  refine ⟨Spells.word letter ?_ ?_,first,others,rfl,letter⟩
  · rw [List.all_eq_true]
    exact List.forall_mem_cons.mpr ⟨by simp [Text.isWordChar,letter],all⟩
  · rw [Scanner.wordKind,free]
    rfl

-- No reserved word is another one with the letter x behind it.
theorem reserved_with_letter {word : Word} {kind : TokenKind} (known : TokenKind.reserved? word = some kind) :
    TokenKind.reserved? (word ++ ['x']) = none := by
  have apart : ∀ kind ∈ TokenKind.words, ∀ other ∈ TokenKind.words,
      kind.spelling.toList ++ ['x'] ≠ other.spelling.toList := by decide +kernel
  have member := List.mem_of_find?_eq_some known
  have spelled : kind.spelling.toList = word := by simpa using List.find?_some known
  refine List.find?_eq_none.mpr fun other held same => apart kind member other held ?_
  rw [spelled,beq_iff_eq.mp same]

theorem named_freed {first : Char} {others : Word} (letter : Text.isLetter first = true)
    (all : ∀ c ∈ others, Text.isWordChar c = true) : Named (Draw.freed (first :: others)) := by
  cases known : TokenKind.reserved? ((first :: others).map Text.lowered) with
  | none =>
    rw [Draw.freed,known]
    exact named_of_free letter all known
  | some kind =>
    have longer := reserved_with_letter known
    have small : Text.lowered 'x' = 'x' := by decide
    rw [Draw.freed,known]
    change Named (first :: (others ++ ['x']))
    refine named_of_free letter ?_ ?_
    · intro c member
      rcases List.mem_append.mp member with member | member
      · exact all c member
      · rw [List.mem_singleton.mp member]
        decide
    · simpa [small] using longer

theorem letters_written : Draw.letters.all Text.isLetter = true := rfl

theorem ensures_name : Draw.Ensures Draw.name Named := by
  have letters := List.all_eq_true.mp letters_written
  have others : ∀ c ∈ Draw.letters ++ Draw.digits, Text.isWordChar c = true := List.all_eq_true.mp rfl
  refine Draw.Ensures.andThen (Draw.ensures_pick letters) fun head letter => ?_
  refine Draw.Ensures.andThen (Draw.ensures_between (Nat.zero_le 8)) fun count _ => ?_
  refine Draw.Ensures.andThen (Draw.Ensures.times (Draw.ensures_pick others) count) fun tail all => ?_
  exact Draw.ensures_give (named_freed letter all.2)

theorem ensures_number : Draw.Ensures Draw.number fun value => value ≤ 32767 :=
  fun value allowed => (Draw.ensures_between (Nat.zero_le _) value allowed).2

theorem decimal_digits (value : Nat) :
    decimal value ≠ [] ∧ (∀ c ∈ decimal value, Text.isDigit c = true) ∧
      Text.valueOf ((decimal value).map fun c => c.toNat - '0'.toNat) = value :=
  Text.digits_written value

theorem numeral_decimal {value : Nat} (small : value ≤ 32767) :
    Segment.numeral (decimal value) = { text := decimal value, kind := some .number } := by
  have kept : value ≤ 2147483647 := by omega
  rw [Segment.numeral,(decimal_digits value).2.2]
  simp only [if_pos kept,if_neg (Nat.not_lt.mpr small)]

theorem spells_decimal {value : Nat} (small : value ≤ 32767) : Spells Apart (decimal value) (Grammar.one .number) := by
  obtain ⟨some,all,_⟩ := decimal_digits value
  have few : (decimal value).length ≤ 5 := by
    rw [show decimal value = Nat.toDigits 10 value from Nat.toList_repr]
    exact (Nat.length_toDigits_le_iff (by decide) (by decide)).mpr (by omega)
  have fits : (decimal value).length ≤ Text.maxDigits := by
    rw [Text.maxDigits]
    omega
  refine Spells.ofSegment { text := decimal value, kind := Option.some .number } ?_ ?_ rfl (Segment.short_of_few fits) rfl
  · exact fun member => Text.ne_of_test (all _ member) rfl rfl
  · intro onward apart
    rw [← numeral_decimal small]
    refine .numeral some all fun c found => ?_
    have past := apart c found
    simp only [Text.isWordChar,Bool.or_eq_false_iff] at past
    exact past.2

def Mild (body : Word) : Prop := ∀ c ∈ body, Text.isLetter c = true ∨ c = ' '

theorem Mild.free {body : Word} (mild : Mild body) {c : Char} (odd : Text.isLetter c = false) (other : c ≠ ' ') :
    c ∉ body := by
  intro member
  rcases mild c member with letter | space
  · exact Text.ne_of_test letter odd rfl
  · exact other space

theorem ensures_phrase (most : Nat) : Draw.Ensures (Draw.phrase most) Mild := by
  have mild : ∀ c ∈ Draw.letters ++ [' '], Text.isLetter c = true ∨ c = ' ' := by
    refine List.forall_mem_append.mpr ⟨fun c member => Or.inl (List.all_eq_true.mp letters_written c member),?_⟩
    exact fun c member => Or.inr (List.mem_singleton.mp member)
  refine Draw.Ensures.andThen (Draw.ensures_between (Nat.zero_le most)) fun count _ => ?_
  exact fun body allowed => (Draw.Ensures.times (Draw.ensures_pick mild) count body allowed).2

theorem spells_quoted {body : Word} (mild : Mild body) : Spells Anyhow ('\'' :: body ++ ['\'']) (Grammar.one .string) := by
  have quote : '\'' ∉ body := mild.free rfl (by decide)
  have line : '\n' ∉ body := mild.free rfl (by decide)
  have plain : '\r' ∉ body := mild.free rfl (by decide)
  have short : ¬ (Segment.quoted ('\'' :: body ++ ['\''])).Overlong := Segment.short_of_head rfl
  exact Spells.ofSegment _ (by simpa [Segment.quoted] using plain) (fun _ _ => .quoted quote line) rfl short rfl

theorem spells_remark {text body : Word} (mild : Mild body)
    (same : text = '\x7b' :: body ++ ['\x7d'] ∨ text = '(' :: '*' :: body ++ ['*',')']) : Spells Anyhow text 1 := by
  have plain : '\r' ∉ body := mild.free rfl (by decide)
  rcases same with rfl | rfl
  · have brace : '\x7d' ∉ body := mild.free rfl (by decide)
    have short : ¬ (Segment.remark ('\x7b' :: body ++ ['\x7d'])).Overlong := Segment.short_of_head rfl
    exact Spells.ofSegment _ (by simpa [Segment.remark] using plain) (fun _ _ => .braced brace) rfl short rfl
  · have bracket : ')' ∉ body ++ ['*'] := by
      have free : ')' ∉ body := mild.free rfl (by decide)
      simpa using free
    have inner : ¬ ['*',')'] <:+: body ++ ['*'] := fun found => bracket (found.subset (by simp))
    have short : ¬ (Segment.remark ('(' :: '*' :: body ++ ['*',')'])).Overlong := Segment.short_of_head rfl
    exact Spells.ofSegment _ (by simpa [Segment.remark] using plain) (fun _ _ => .starred inner) rfl short rfl

theorem ensures_remark : Draw.Ensures Draw.remark fun remark => Spells Anyhow remark.text 1 := by
  refine Draw.Ensures.andThen (ensures_phrase 16) fun body mild => Draw.ensures_pick ?_
  refine List.forall_mem_cons.mpr ⟨spells_remark mild (Or.inl rfl),?_⟩
  exact List.forall_mem_cons.mpr ⟨spells_remark mild (Or.inr rfl),List.forall_mem_nil _⟩

theorem ensures_standardName : Draw.Ensures Draw.standardName fun word => Spells Apart word Grammar.standard := by
  have known : ∀ word ∈ ["integer".toList,"real".toList,"boolean".toList,"char".toList],
      word.head?.any Text.isLetter = true ∧ word.all Text.isWordChar = true ∧
        (Scanner.wordKind word = .ident ∨ Scanner.wordKind word = .integerWord) := by decide +kernel
  refine Draw.ensures_pick fun word member => ?_
  obtain ⟨letter,all,kind⟩ := known word member
  rcases kind with kind | kind
  · exact (Spells.word letter all kind).mono fun _ same => Or.inl same
  · exact (Spells.word letter all kind).mono fun _ same => Or.inr same

end PascalCheck.Corpus
