import Mathlib.Order.CompletePartialOrder
import PascalCheck.Proofs.Grammar.Language
import PascalCheck.Proofs.Text.Line
import PascalCheck.Proofs.Token.Tiling

namespace PascalCheck
open Grammar
open scoped Computability

-- How a text may go on after a word or a number, so that this is not read on.
abbrev Apart : List Char → Prop := Segment.Stops Text.isWordChar

abbrev Anyhow : List Char → Prop := fun _ => True

-- What a text spells may depend on how it goes on. No carriage return stands in it.
structure Spells (near : List Char → Prop) (text : List Char) (phrase : Phrases) : Prop where
  plain : '\r' ∉ text
  read : ∀ onward, near onward → ∃ segments, Segment.textOf segments = text ∧ Segment.Tiles segments onward ∧
    segments.filterMap Segment.kind ∈ phrase ∧ ∀ segment ∈ segments, segment.complaint = none ∧ ¬ segment.Overlong

namespace Segment

theorem Tiles.append {first second : List Segment} {onward : List Char} (here : Tiles first (textOf second ++ onward))
    (there : Tiles second onward) : Tiles (first ++ second) onward := by
  induction first with
  | nil => exact there
  | cons segment others ih =>
    obtain _ | ⟨fits,tiles⟩ := here
    refine .cons ?_ (ih tiles)
    simpa [textOf] using fits

theorem kinds_tokensAfter (front : List Char) (segments : List Segment) :
    (tokensAfter front segments).map Token.kind = segments.filterMap Segment.kind := by
  induction segments generalizing front with
  | nil => rfl
  | cons segment others ih =>
    rw [tokensAfter_cons,List.map_append,ih,List.filterMap_cons]
    cases segment.kind <;> rfl

theorem complaintsAfter_none (front : List Char) {segments : List Segment}
    (clean : ∀ segment ∈ segments, segment.complaint = none) : complaintsAfter front segments = [] := by
  induction segments generalizing front with
  | nil => rfl
  | cons segment others ih =>
    obtain ⟨here,there⟩ := List.forall_mem_cons.mp clean
    rw [complaintsAfter_cons,here,ih _ there]
    rfl

theorem short_of_few {segment : Segment} (few : segment.text.length ≤ Text.maxDigits) : ¬ segment.Overlong :=
  fun long => Nat.not_lt.mpr few long.2

theorem short_of_head {segment : Segment} (odd : segment.text.head?.any Text.isDigit = false) : ¬ segment.Overlong := by
  intro long
  rw [long.1] at odd
  cases odd

theorem plain_of_mark {lexeme : List Char} {kind : TokenKind} (known : TokenKind.mark? lexeme = some kind) {a : Char}
    (member : a ∈ lexeme) (other : a ≠ '(') : Plain a := by
  have all : (TokenKind.marks.all fun kind => kind.spelling.toList.all fun a => a == '(' || decide (Plain a)) = true := rfl
  have spelled : kind.spelling.toList = lexeme := by simpa using List.find?_some known
  have here := List.all_eq_true.mp all kind (List.mem_of_find?_eq_some known)
  have plain := List.all_eq_true.mp here a (spelled ▸ member)
  simpa [other] using plain

theorem Plain.line {a : Char} (plain : Plain a) : '\r' ≠ a := Text.ne_of_test (p := Text.isBlank) rfl plain.dark

end Segment

namespace Spells
open Segment

variable {near fit : List Char → Prop} {text more : List Char} {phrase other : Phrases}

theorem nil : Spells near [] 1 := by
  refine ⟨List.not_mem_nil,fun onward _ => ⟨[],rfl,.nil,rfl,?_⟩⟩
  exact List.forall_mem_nil _

theorem mono (spells : Spells near text phrase) (inside : ∀ word ∈ phrase, word ∈ other) : Spells near text other := by
  refine ⟨spells.plain,fun onward met => ?_⟩
  obtain ⟨segments,same,tiles,member,clean⟩ := spells.read onward met
  exact ⟨segments,same,tiles,inside _ member,clean⟩

theorem widen (spells : Spells near text phrase) (order : phrase ≤ other) : Spells near text other :=
  spells.mono fun _ member => Set.mem_of_mem_of_subset member order

theorem narrow (spells : Spells near text phrase) (meets : ∀ onward, fit onward → near onward) :
    Spells fit text phrase :=
  ⟨spells.plain,fun onward met => spells.read onward (meets onward met)⟩

-- The second text has to go on as the first one needs it.
theorem append (here : Spells near text phrase) (there : Spells fit more other)
    (joint : ∀ onward, fit onward → near (more ++ onward)) : Spells fit (text ++ more) (phrase * other) := by
  refine ⟨fun member => (List.mem_append.mp member).elim here.plain there.plain,fun onward met => ?_⟩
  obtain ⟨second,sameSecond,tilesSecond,memberSecond,cleanSecond⟩ := there.read onward met
  obtain ⟨first,sameFirst,tilesFirst,memberFirst,cleanFirst⟩ := here.read (more ++ onward) (joint onward met)
  rw [← sameSecond] at tilesFirst
  refine ⟨first ++ second,?_,tilesFirst.append tilesSecond,?_,?_⟩
  · rw [← sameFirst,← sameSecond]
    exact List.flatMap_append
  · rw [List.filterMap_append]
    exact Language.append_mem_mul memberFirst memberSecond
  · intro segment member
    exact (List.mem_append.mp member).elim (cleanFirst segment) (cleanSecond segment)

theorem after (spells : Spells near text phrase) (blank : Spells fit more 1)
    (joint : ∀ onward, fit onward → near (more ++ onward)) : Spells fit (text ++ more) phrase := by
  have both := spells.append blank joint
  rwa [mul_one] at both

theorem before (blank : Spells near text 1) (spells : Spells fit more phrase)
    (joint : ∀ onward, fit onward → near (more ++ onward)) : Spells fit (text ++ more) phrase := by
  have both := blank.append spells joint
  rwa [one_mul] at both

theorem many {items : List α} {spell : α → List Char} (each : ∀ item ∈ items, Spells near (spell item) phrase)
    (joint : ∀ item ∈ items, ∀ onward, near (spell item ++ onward)) :
    Spells near (items.flatMap spell) phrase∗ ∧ ∀ onward, near onward → near (items.flatMap spell ++ onward) := by
  induction items with
  | nil =>
    refine ⟨nil.mono ?_,fun onward met => met⟩
    rintro _ rfl
    exact Language.nil_mem_kstar _
  | cons item others ih =>
    obtain ⟨here,there⟩ := List.forall_mem_cons.mp each
    obtain ⟨first,rest⟩ := List.forall_mem_cons.mp joint
    obtain ⟨spells,goes⟩ := ih there rest
    refine ⟨(here.append spells goes).mono ?_,fun onward met => ?_⟩
    · intro word member
      rw [← Language.one_add_self_mul_kstar_eq_kstar]
      exact Or.inr member
    · rw [List.flatMap_cons,List.append_assoc]
      exact first _

theorem ofSegment (segment : Segment) (plain : '\r' ∉ segment.text) (fits : ∀ onward, near onward → segment.Fits onward)
    (clean : segment.complaint = none) (short : ¬ segment.Overlong) (member : segment.kind.toList ∈ phrase) :
    Spells near segment.text phrase := by
  refine ⟨plain,fun onward met => ⟨[segment],by simp [textOf],.cons (fits onward met) .nil,?_,?_⟩⟩
  · cases found : segment.kind <;> simpa [found] using member
  · simpa using ⟨clean,short⟩

theorem blank {c : Char} (bright : Text.isBlank c = true) (plain : '\r' ≠ c) : Spells Anyhow [c] 1 := by
  have few : [c].length ≤ Text.maxDigits := by simp [Text.maxDigits]
  exact ofSegment (.blank c) (by simpa [Segment.blank] using plain) (fun _ _ => .blank bright) rfl (short_of_few few) rfl

theorem word {kind : TokenKind} (letter : text.head?.any Text.isLetter = true) (all : text.all Text.isWordChar = true)
    (known : Scanner.wordKind text = kind) : Spells Apart text (one kind) := by
  rw [List.all_eq_true] at all
  cases text with
  | nil => cases letter
  | cons first others =>
    have short : ¬ (Segment.word (first :: others)).Overlong := short_of_head (Text.not_isDigit_of_isLetter letter)
    refine ofSegment (.word (first :: others)) ?_ ?_ rfl short (congrArg (fun kind => [kind]) known)
    · exact fun member => Text.ne_of_test (all _ member) rfl rfl
    · exact fun onward => .word letter fun c member => all c (List.mem_cons_of_mem _ member)

theorem mark {a : Char} {kind : TokenKind} (known : TokenKind.mark? [a] = some kind) (other : a ≠ '(')
    (alone : ∀ onward, near onward → ∀ b ∈ onward.head?, TokenKind.mark? [a,b] = none) : Spells near [a] (one kind) := by
  have plain := plain_of_mark known List.mem_cons_self other
  have short : ¬ (Segment.mark [a] kind).Overlong := short_of_head plain.digit
  exact ofSegment (.mark [a] kind) (by simpa [Segment.mark] using plain.line)
    (fun onward met => .single plain known (alone onward met)) rfl short rfl

theorem lone {a : Char} {kind : TokenKind} (known : TokenKind.mark? [a] = some kind)
    (single : a ∉ ['(',':','<','>','.']) : Spells Anyhow [a] (one kind) := by
  refine mark known (fun same => single (by simp [same])) fun _ _ b _ => ?_
  refine Option.eq_none_iff_forall_ne_some.mpr fun kind known => single ?_
  have found := TokenKind.mark_pair known
  simp only [List.mem_cons,Prod.mk.injEq,List.not_mem_nil,or_false] at found ⊢
  tauto

theorem joined {a b : Char} {kind : TokenKind} (known : TokenKind.mark? [a] = some kind) (other : a ≠ '(')
    (apart : TokenKind.mark? [a,b] = none) : Spells (fun onward => onward.head? = some b) [a] (one kind) := by
  refine mark known other fun onward head c found => ?_
  obtain rfl : b = c := Option.some.inj (head.symm.trans found)
  exact apart

theorem pair {a b : Char} {kind : TokenKind} (known : TokenKind.mark? [a,b] = some kind) :
    Spells Anyhow [a,b] (one kind) := by
  have found := TokenKind.mark_pair known
  have first : Plain a := plain_of_mark known List.mem_cons_self (by rintro rfl; simp at found)
  have second : Plain b := plain_of_mark known (by simp) (by rintro rfl; simp at found)
  have short : ¬ (Segment.mark [a,b] kind).Overlong := short_of_head first.digit
  exact ofSegment (.mark [a,b] kind) (by simp [Segment.mark,first.line,second.line])
    (fun _ _ => .pair first known) rfl short rfl

end Spells

end PascalCheck
