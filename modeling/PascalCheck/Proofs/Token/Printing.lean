import PascalCheck.Proofs.Token.Layout

namespace PascalCheck

inductive Lexeme : List Char → TokenKind → Prop where
  | name {first : Char} {others : List Char} (letter : Text.isLetter first = true)
      (all : ∀ c ∈ others, Text.isWordChar c = true)
      (unknown : TokenKind.reserved? ((first :: others).map Text.lowered) = none) : Lexeme (first :: others) .ident
  | keyword {first : Char} {others : List Char} {kind : TokenKind} (letter : Text.isLetter first = true)
      (all : ∀ c ∈ others, Text.isWordChar c = true)
      (known : TokenKind.reserved? ((first :: others).map Text.lowered) = some kind) : Lexeme (first :: others) kind
  | numeral {digits : List Char} (some : digits ≠ []) (all : ∀ c ∈ digits, Text.isDigit c = true)
      (few : digits.length ≤ 4300) (small : Text.valueOf (digits.map fun c => c.toNat - '0'.toNat) ≤ 32767) :
      Lexeme digits .number
  | string {body : List Char} (quote : '\'' ∉ body) (line : '\n' ∉ body) (plain : '\r' ∉ body) :
      Lexeme ('\'' :: body ++ ['\'']) .string
  | mark {text : List Char} {kind : TokenKind} (known : TokenKind.mark? text = some kind) : Lexeme text kind

structure Printed where
  gap : List Char
  text : List Char
  kind : TokenKind
deriving DecidableEq, Repr

namespace Printed

def all (item : Printed) : List Char := item.gap ++ item.text

def tokensAfter (front : List Char) : List Printed → List Token
  | [] => []
  | item :: others => ⟨item.kind,.after (front ++ item.gap)⟩ :: tokensAfter (front ++ item.all) others

end Printed

-- Something parts neighbours, and nothing but blanks and comments stands around the lexemes.
structure Printable (items : List Printed) (trail : List Char) : Prop where
  lexemes : ∀ item ∈ items, Lexeme item.text item.kind
  gaps : ∀ item ∈ items, Layout item.gap ∧ '\r' ∉ item.gap
  parted : ∀ item ∈ items.tail, item.gap ≠ []
  trail : Layout trail ∧ '\r' ∉ trail

namespace TokenKind

variable {text : List Char} {kind : TokenKind}

theorem mark_size (known : mark? text = some kind) : ∃ a, text = [a] ∨ ∃ b, text = [a,b] := by
  have all : (marks.all fun kind => kind.spelling.toList.length == 1 || kind.spelling.toList.length == 2) = true := rfl
  have spelled : kind.spelling.toList = text := by simpa using List.find?_some known
  have size := List.all_eq_true.mp all kind (List.mem_of_find?_eq_some known)
  rw [spelled,Bool.or_eq_true,beq_iff_eq,beq_iff_eq] at size
  rcases size with one | two
  · obtain ⟨a,same⟩ := List.length_eq_one_iff.mp one
    exact ⟨a,Or.inl same⟩
  · obtain ⟨a,b,same⟩ := List.length_eq_two.mp two
    exact ⟨a,Or.inr ⟨b,same⟩⟩

end TokenKind

namespace Segment

variable {text : List Char} {kind : TokenKind}

structure Renders (text : List Char) (kind : TokenKind) (segment : Segment) : Prop where
  spelled : segment.text = text
  given : segment.kind = some kind
  clean : segment.complaint = none
  short : ¬ segment.Overlong
  plain : '\r' ∉ text
  fits : ∀ onward : List Char, (∀ c ∈ onward.head?, Parts c) → segment.Fits onward

theorem stops_digit {onward : List Char} (parted : ∀ c ∈ onward.head?, Parts c) : Stops Text.isDigit onward :=
  fun c found => (Bool.or_eq_false_iff.mp (parted c found).word).2

theorem stops_word {onward : List Char} (parted : ∀ c ∈ onward.head?, Parts c) : Stops Text.isWordChar onward :=
  fun c found => (parted c found).word

theorem renders_word {first : Char} {others : List Char} (letter : Text.isLetter first = true)
    (all : ∀ c ∈ others, Text.isWordChar c = true) :
    Renders (first :: others) (Scanner.wordKind (first :: others)) (.word (first :: others)) := by
  refine ⟨rfl,rfl,rfl,short_of_head (Text.not_isDigit_of_isLetter letter),?_,?_⟩
  · have run : ∀ c ∈ first :: others, Text.isWordChar c = true :=
      List.forall_mem_cons.mpr ⟨by simp [Text.isWordChar,letter],all⟩
    exact fun member => Text.ne_of_test (run _ member) rfl rfl
  · exact fun onward parted => .word letter all (stops_word parted)

theorem renders_numeral (some : text ≠ []) (all : ∀ c ∈ text, Text.isDigit c = true) (few : text.length ≤ 4300)
    (small : Text.valueOf (text.map fun c => c.toNat - '0'.toNat) ≤ 32767) : Renders text .number (.numeral text) := by
  refine ⟨rfl,?_,?_,short_of_few few,?_,?_⟩
  · exact if_pos (by omega)
  · exact if_neg (by omega)
  · exact fun member => Text.ne_of_test (all _ member) rfl rfl
  · exact fun onward parted => .numeral some all (stops_digit parted)

theorem renders_string {body : List Char} (quote : '\'' ∉ body) (line : '\n' ∉ body) (plain : '\r' ∉ body) :
    Renders ('\'' :: body ++ ['\'']) .string (.quoted ('\'' :: body ++ ['\''])) := by
  refine ⟨rfl,rfl,rfl,short_of_head rfl,?_,?_⟩
  · simpa using plain
  · exact fun onward _ => .quoted quote line

theorem renders_mark (known : TokenKind.mark? text = some kind) : Renders text kind (.mark text kind) := by
  obtain ⟨a,sizes⟩ := TokenKind.mark_size known
  by_cases bracket : a = '('
  · subst bracket
    rcases sizes with rfl | ⟨b,rfl⟩
    · obtain rfl : TokenKind.lparen = kind := Option.some.inj known
      refine ⟨rfl,rfl,rfl,short_of_head rfl,by decide,fun onward parted => .bracket ?_⟩
      exact fun star => (parted _ star).star rfl
    · have found := TokenKind.mark_pair known
      simp at found
  · rcases sizes with rfl | ⟨b,rfl⟩
    · have plain := plain_of_mark known List.mem_cons_self bracket
      refine ⟨rfl,rfl,rfl,short_of_head plain.digit,by simpa using plain.line,fun onward parted => ?_⟩
      exact .single plain known fun b found => (parted b found).pair a
    · have plain := plain_of_mark known List.mem_cons_self bracket
      have second : Plain b := by
        apply plain_of_mark known (by simp)
        rintro rfl
        have found := TokenKind.mark_pair known
        simp at found
      refine ⟨rfl,rfl,rfl,short_of_head plain.digit,by simp [plain.line,second.line],fun onward _ => ?_⟩
      exact .pair plain known

theorem exists_renders (lexeme : Lexeme text kind) : ∃ segment, Renders text kind segment := by
  cases lexeme with
  | @name first others letter all unknown =>
    have kind : Scanner.wordKind (first :: others) = .ident := by rw [Scanner.wordKind,unknown]; rfl
    exact ⟨_,kind ▸ renders_word letter all⟩
  | @keyword first others kind letter all known =>
    have same : Scanner.wordKind (first :: others) = kind := by rw [Scanner.wordKind,known]; rfl
    exact ⟨_,same ▸ renders_word letter all⟩
  | numeral some all few small => exact ⟨_,renders_numeral some all few small⟩
  | string quote line plain => exact ⟨_,renders_string quote line plain⟩
  | mark known => exact ⟨_,renders_mark known⟩

theorem silent_layout {gap onward : List Char} (layout : Layout gap) (flat : '\r' ∉ gap) :
    ∃ segments, textOf segments = gap ∧ Tiles segments onward ∧ (∀ front, tokensAfter front segments = []) ∧
      ∀ segment ∈ segments, segment.complaint = none ∧ ¬ segment.Overlong := by
  obtain ⟨segments,same,tiles,none,clean⟩ := (spells_layout layout flat).read onward trivial
  refine ⟨segments,same,tiles,?_,clean⟩
  intro front
  have kinds := kinds_tokensAfter front segments
  rw [show segments.filterMap Segment.kind = [] from none] at kinds
  exact List.map_eq_nil_iff.mp kinds

end Segment

namespace Printable
open Segment

variable {items : List Printed} {item : Printed} {trail : List Char}

def print (items : List Printed) (trail : List Char) : List Char := items.flatMap Printed.all ++ trail

theorem of_cons (printable : Printable (item :: items) trail) : Printable items trail := by
  refine ⟨fun other member => printable.lexemes other (List.mem_cons_of_mem _ member),
    fun other member => printable.gaps other (List.mem_cons_of_mem _ member),?_,printable.trail⟩
  exact fun other member => printable.parted other (List.mem_of_mem_tail member)

theorem parts_behind (printable : Printable (item :: items) trail) : ∀ c ∈ (print items trail).head?, Parts c := by
  intro c found
  cases items with
  | nil =>
    have some : trail ≠ [] := by
      rintro rfl
      cases found
    have ahead : c ∈ (trail ++ []).head? := by simpa [print] using found
    exact parts_of_layout printable.trail.1 some c ahead
  | cons next items =>
    obtain ⟨layout,_⟩ := printable.gaps next (by simp)
    have ahead : c ∈ (next.gap ++ (next.text ++ print items trail)).head? := by
      simpa [print,Printed.all] using found
    exact parts_of_layout layout (printable.parted next (by simp)) c ahead

theorem plain (printable : Printable items trail) : '\r' ∉ print items trail := by
  intro member
  rcases List.mem_append.mp member with printed | behind
  · obtain ⟨item,held,inside⟩ := List.mem_flatMap.mp printed
    obtain ⟨_,renders⟩ := exists_renders (printable.lexemes item held)
    rcases List.mem_append.mp inside with gap | text
    · exact (printable.gaps item held).2 gap
    · exact renders.plain text
  · exact printable.trail.2 behind

theorem exists_tiles (printable : Printable items trail) :
    ∃ segments, textOf segments = print items trail ∧ Tiles segments [] ∧
      (∀ front, tokensAfter front segments = Printed.tokensAfter front items) ∧
      ∀ segment ∈ segments, segment.complaint = none ∧ ¬ segment.Overlong := by
  induction items with
  | nil =>
    obtain ⟨layout,flat⟩ := printable.trail
    exact silent_layout layout flat
  | cons item items ih =>
    obtain ⟨others,rest,tiles,tokens,clean⟩ := ih printable.of_cons
    obtain ⟨lexeme,renders⟩ := exists_renders (printable.lexemes item List.mem_cons_self)
    obtain ⟨layout,flat⟩ := printable.gaps item List.mem_cons_self
    have fits : lexeme.Fits (textOf others ++ []) := by
      rw [List.append_nil,rest]
      exact renders.fits _ printable.parts_behind
    obtain ⟨gap,same,tilesGap,silent,cleanGap⟩ : ∃ gap, textOf gap = item.gap ∧
        Tiles gap (textOf (lexeme :: others) ++ []) ∧ (∀ front, tokensAfter front gap = []) ∧
        ∀ segment ∈ gap, segment.complaint = none ∧ ¬ segment.Overlong := silent_layout layout flat
    refine ⟨gap ++ lexeme :: others,?_,tilesGap.append (.cons fits tiles),?_,?_⟩
    · rw [Scanner.textOf_split,same,renders.spelled,rest]
      simp [print,Printed.all]
    · intro front
      rw [tokensAfter_append,silent,tokensAfter_cons,renders.given,same,renders.spelled,tokens]
      simp [Printed.tokensAfter,Printed.all]
    · refine List.forall_mem_append.mpr ⟨cleanGap,List.forall_mem_cons.mpr ⟨⟨renders.clean,renders.short⟩,clean⟩⟩

end Printable

-- Scanning undoes printing.
theorem tokenize_printed (items : List Printed) (trail : List Char) (printable : Printable items trail) :
    tokenize (Printable.print items trail) = .ok (Printed.tokensAfter [] items,{}) := by
  obtain ⟨segments,same,tiles,found,clean⟩ := printable.exists_tiles
  obtain ⟨tokens,sink,scanned,gives⟩ := Scanner.tokenize_of_tiles tiles
    (same.trans (Text.normalize_of_plain printable.plain).symm) fun segment member => (clean segment member).2
  have silent : sink.toList = [] := by
    rw [gives.reports,Segment.complaintsAfter_none [] fun segment member => (clean segment member).1]
    rfl
  obtain ⟨⟨reports⟩⟩ := sink
  cases silent
  rw [scanned,gives.tokens,found]

theorem tokenize_printed_between_comments :
    let items : List Printed := [
      ⟨[],"(".toList,.lparen⟩,⟨"\x7b'\n\x7d".toList,"BeGin".toList,.beginWord⟩,⟨"(*)\n *)".toList,"'(*'".toList,.string⟩,
      ⟨" ".toList,"..".toList,.dotdot⟩,⟨"(**)".toList,"032767".toList,.number⟩,⟨"\x7b(*\x7d".toList,"b3".toList,.ident⟩]
    Printable items "\n".toList ∧
      tokenize (Printable.print items "\n".toList) = .ok ([
        ⟨.lparen,⟨0,0⟩⟩,⟨.beginWord,⟨1,1⟩⟩,⟨.string,⟨2,3⟩⟩,⟨.dotdot,⟨2,8⟩⟩,⟨.number,⟨2,14⟩⟩,⟨.ident,⟨2,24⟩⟩],{}) := by
  intro items
  have numeral : Lexeme "032767".toList .number := by
    have digits : ("032767".toList.all Text.isDigit) = true := rfl
    exact .numeral (List.cons_ne_nil _ _) (List.all_eq_true.mp digits) (by decide) (by decide)
  have string : Lexeme "'(*'".toList .string := @Lexeme.string "(*".toList (by decide) (by decide) (by decide)
  have lexemes : ∀ item ∈ items, Lexeme item.text item.kind := by
    simp only [items,List.forall_mem_cons]
    exact ⟨.mark rfl,.keyword rfl (List.all_eq_true.mp rfl) rfl,string,.mark rfl,numeral,
      .name rfl (List.all_eq_true.mp rfl) rfl,List.forall_mem_nil _⟩
  have quote : Layout "\x7b'\n\x7d".toList := @Layout.braced "'\n".toList [] (by decide) .nil
  have bracket : Layout "(*)\n *)".toList := @Layout.starred ")\n ".toList [] (by decide) .nil
  have stars : Layout "(**)".toList := @Layout.starred [] [] (by decide) .nil
  have opening : Layout "\x7b(*\x7d".toList := @Layout.braced "(*".toList [] (by decide) .nil
  have plain : items.all (fun item => !item.gap.elem '\r') = true := rfl
  have gaps : ∀ item ∈ items, Layout item.gap ∧ '\r' ∉ item.gap := by
    intro item member
    refine ⟨?_,by simpa using List.all_eq_true.mp plain item member⟩
    revert item
    simp only [items,List.forall_mem_cons]
    exact ⟨.nil,quote,bracket,.blank rfl .nil,stars,opening,List.forall_mem_nil _⟩
  have parted : ∀ item ∈ items.tail, item.gap ≠ [] := by simp [items]
  have printable : Printable items "\n".toList := ⟨lexemes,gaps,parted,.blank rfl .nil,by decide⟩
  refine ⟨printable,?_⟩
  rw [tokenize_printed items _ printable]
  rfl

end PascalCheck
