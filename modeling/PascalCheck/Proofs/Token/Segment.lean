import Mathlib.Data.List.TakeWhile
import PascalCheck.Proofs.Source.Place
import PascalCheck.Text.Letter
import PascalCheck.Text.Numeral
import PascalCheck.Text.Quoted
import PascalCheck.Token.Basic
import PascalCheck.Token.Scanner

namespace PascalCheck

structure Segment where
  text : List Char
  kind : Option TokenKind := none
  complaint : Option (Problem × String) := none

namespace Segment

def blank (c : Char) : Segment := { text := [c] }

def remark (text : List Char) : Segment := { text := text }

def openRemark (text : List Char) : Segment :=
  { text := text, complaint := some (.unterminatedComment,Problem.unterminatedComment.message) }

def numeral (digits : List Char) : Segment :=
  let value := Text.valueOf (digits.map fun c => c.toNat - '0'.toNat)
  { text := digits
    kind := if value ≤ 2147483647 then some .number else none
    complaint := if 32767 < value then some (.numberOutOfRange,Problem.numberOutOfRange.message) else none }

def word (text : List Char) : Segment :=
  { text := text, kind := some ((TokenKind.reserved? (text.map Text.lowered)).getD .ident) }

def quoted (text : List Char) : Segment := { text := text, kind := some .string }

-- A string without its closing quote is a token all the same.
def openQuoted (text : List Char) : Segment :=
  { text := text, kind := some .string, complaint := some (.unterminatedString,Problem.unterminatedString.message) }

def mark (text : List Char) (kind : TokenKind) : Segment := { text := text, kind := some kind }

def stray (c : Char) : Segment :=
  { text := [c], complaint := some (.invalidCharacter,"invalid character " ++ Text.quoted (String.singleton c)) }

def Stops (p : Char → Bool) (onward : List Char) : Prop := ∀ c ∈ onward.head?, p c = false

structure Plain (c : Char) : Prop where
  dark : Text.isBlank c = false
  brace : c ≠ '\x7b'
  bracket : c ≠ '('
  digit : Text.isDigit c = false
  letter : Text.isLetter c = false
  quote : c ≠ '\''

instance (c : Char) : Decidable (Plain c) :=
  decidable_of_iff (Text.isBlank c = false ∧ c ≠ '\x7b' ∧ c ≠ '(' ∧ Text.isDigit c = false ∧
      Text.isLetter c = false ∧ c ≠ '\'')
    ⟨fun ⟨dark,brace,bracket,digit,letter,quote⟩ => ⟨dark,brace,bracket,digit,letter,quote⟩,
      fun plain => ⟨plain.dark,plain.brace,plain.bracket,plain.digit,plain.letter,plain.quote⟩⟩

inductive Fits : Segment → List Char → Prop
  | blank {c : Char} (bright : Text.isBlank c = true) : Fits (.blank c) onward
  | braced {body : List Char} (inner : '\x7d' ∉ body) : Fits (.remark ('\x7b' :: body ++ ['\x7d'])) onward
  | bracedOpen {body : List Char} (inner : '\x7d' ∉ body) : Fits (.openRemark ('\x7b' :: body)) []
  | starred {body : List Char} (inner : ¬ ['*',')'] <:+: body ++ ['*']) :
      Fits (.remark ('(' :: '*' :: body ++ ['*',')'])) onward
  | starredOpen {body : List Char} (inner : ¬ ['*',')'] <:+: body) : Fits (.openRemark ('(' :: '*' :: body)) []
  | bracket (single : onward.head? ≠ some '*') : Fits (.mark ['('] .lparen) onward
  | numeral {digits : List Char} (some : digits ≠ []) (all : ∀ c ∈ digits, Text.isDigit c = true)
      (stops : Stops Text.isDigit onward) : Fits (.numeral digits) onward
  | word {first : Char} {others : List Char} (letter : Text.isLetter first = true)
      (all : ∀ c ∈ others, Text.isWordChar c = true) (stops : Stops Text.isWordChar onward) :
      Fits (.word (first :: others)) onward
  | quoted {body : List Char} (quote : '\'' ∉ body) (line : '\n' ∉ body) :
      Fits (.quoted ('\'' :: body ++ ['\''])) onward
  | quotedOpen {body : List Char} (quote : '\'' ∉ body) (line : '\n' ∉ body) (ends : ∀ c ∈ onward.head?, c = '\n') :
      Fits (.openQuoted ('\'' :: body)) onward
  | pair {a b : Char} {kind : TokenKind} (plain : Plain a) (known : TokenKind.mark? [a,b] = some kind) :
      Fits (.mark [a,b] kind) onward
  | single {a : Char} {kind : TokenKind} (plain : Plain a) (known : TokenKind.mark? [a] = some kind)
      (alone : ∀ b ∈ onward.head?, TokenKind.mark? [a,b] = none) : Fits (.mark [a] kind) onward
  | stray {a : Char} (plain : Plain a) (unknown : TokenKind.mark? [a] = none)
      (alone : ∀ b ∈ onward.head?, TokenKind.mark? [a,b] = none) : Fits (.stray a) onward

-- More digits than a number may have.
def Overlong (segment : Segment) : Prop :=
  segment.text.head?.any Text.isDigit = true ∧ Text.maxDigits < segment.text.length

instance (segment : Segment) : Decidable segment.Overlong := inferInstanceAs (Decidable (_ ∧ _))

def textOf (segments : List Segment) : List Char := segments.flatMap Segment.text

inductive Tiles : List Segment → List Char → Prop
  | nil : Tiles [] onward
  | cons {segment : Segment} {others : List Segment} (fits : segment.Fits (textOf others ++ onward))
      (tiles : Tiles others onward) : Tiles (segment :: others) onward

-- Each segment with the place of its first character, after some text in front of them all.
def placed (front : List Char) : List Segment → List (Position × Segment)
  | [] => []
  | segment :: others => (.after front,segment) :: placed (front ++ segment.text) others

def tokensAfter (front : List Char) (segments : List Segment) : List Token :=
  (placed front segments).filterMap fun part => part.2.kind.map fun kind => ⟨kind,part.1⟩

def complaintsAfter (front : List Char) (segments : List Segment) : List (Position × Problem × String) :=
  (placed front segments).filterMap fun part => part.2.complaint.map fun complaint => (part.1,complaint)

def entry (count : Nat) (told : Position × Problem × String) : Diagnostic where
  line := told.1.line + 1
  column := told.1.column + 1
  code := told.2.1.code
  number := count + 1
  message := told.2.2

theorem tokensAfter_cons (front : List Char) (segment : Segment) (others : List Segment) :
    tokensAfter front (segment :: others) =
      (segment.kind.map fun kind => ⟨kind,.after front⟩).toList ++ tokensAfter (front ++ segment.text) others := by
  simp only [tokensAfter,placed,List.filterMap_cons]
  cases segment.kind <;> rfl

theorem complaintsAfter_cons (front : List Char) (segment : Segment) (others : List Segment) :
    complaintsAfter front (segment :: others) =
      (segment.complaint.map fun told => (.after front,told)).toList ++ complaintsAfter (front ++ segment.text) others := by
  simp only [complaintsAfter,placed,List.filterMap_cons]
  cases segment.complaint <;> rfl

theorem placed_append (front : List Char) (first second : List Segment) :
    placed front (first ++ second) = placed front first ++ placed (front ++ textOf first) second := by
  induction first generalizing front with
  | nil => simp [textOf,placed]
  | cons segment first ih =>
    rw [List.cons_append,placed,ih,placed,List.append_assoc]
    rfl

theorem tokensAfter_append (front : List Char) (first second : List Segment) :
    tokensAfter front (first ++ second) = tokensAfter front first ++ tokensAfter (front ++ textOf first) second := by
  rw [tokensAfter,placed_append,List.filterMap_append]
  rfl

theorem complaintsAfter_append (front : List Char) (first second : List Segment) :
    complaintsAfter front (first ++ second) =
      complaintsAfter front first ++ complaintsAfter (front ++ textOf first) second := by
  rw [complaintsAfter,placed_append,List.filterMap_append]
  rfl

theorem Fits.ne_nil {segment : Segment} {onward : List Char} (fits : segment.Fits onward) : segment.text ≠ [] := by
  cases fits with
  | numeral some => exact some
  | _ => exact List.cons_ne_nil _ _

theorem Tiles.ne_nil {segments : List Segment} {onward : List Char} (tiles : Tiles segments onward) :
    ∀ segment ∈ segments, segment.text ≠ [] := by
  induction tiles with
  | nil => exact List.forall_mem_nil _
  | cons fits _ ih => exact List.forall_mem_cons.mpr ⟨fits.ne_nil,ih⟩

theorem takeWhile_run {p : Char → Bool} {run onward : List Char} (all : ∀ c ∈ run, p c = true)
    (stops : Stops p onward) : (run ++ onward).takeWhile p = run := by
  rw [List.takeWhile_append_of_pos all]
  cases onward with
  | nil => simp
  | cons c others =>
    have past := stops c rfl
    simp [past]

theorem exists_run (p : Char → Bool) (text : List Char) :
    ∃ run onward, text = run ++ onward ∧ (∀ c ∈ run, p c = true) ∧ Stops p onward := by
  refine ⟨text.takeWhile p,text.dropWhile p,List.takeWhile_append_dropWhile.symm,?_,?_⟩
  · intro c member
    exact List.mem_takeWhile_imp member
  · intro c found
    have none := List.head?_dropWhile_not p text
    rw [Option.mem_def.mp found] at none
    exact none

theorem exists_closer (text : List Char) :
    (¬ ['*',')'] <:+: text) ∨
      ∃ body onward, text = body ++ '*' :: ')' :: onward ∧ ¬ ['*',')'] <:+: body ++ ['*'] := by
  induction text with
  | nil => exact Or.inl (by simp)
  | cons c others ih =>
    by_cases here : ['*',')'] <+: c :: others
    · obtain ⟨onward,same⟩ := here
      exact Or.inr ⟨[],onward,same.symm,by decide⟩
    · rcases ih with none | ⟨body,onward,rfl,inner⟩
      · exact Or.inl fun found => (List.infix_cons_iff.mp found).elim here none
      · refine Or.inr ⟨c :: body,onward,rfl,fun found => ?_⟩
        rcases List.infix_cons_iff.mp found with first | later
        · refine here (first.trans ?_)
          exact ⟨')' :: onward,by simp⟩
        · exact inner later

-- Every text begins with a segment. The cases are those of the scanner, in its order.
theorem exists_fits (text : List Char) (more : text ≠ []) :
    ∃ segment onward, text = Segment.text segment ++ onward ∧ segment.Fits onward := by
  obtain ⟨c,others,rfl⟩ := List.exists_cons_of_ne_nil more
  by_cases bright : Text.isBlank c = true
  · exact ⟨_,others,rfl,.blank bright⟩
  by_cases brace : c = '\x7b'
  · subst brace
    by_cases closed : '\x7d' ∈ others
    · obtain ⟨body,onward,rfl,inner⟩ := List.eq_append_cons_of_mem closed
      exact ⟨_,onward,by simp [remark],.braced inner⟩
    · exact ⟨_,[],by simp [openRemark],.bracedOpen closed⟩
  by_cases bracket : c = '('
  · subst bracket
    by_cases star : others.head? = some '*'
    · obtain ⟨inside,rfl⟩ := List.head?_eq_some_iff.mp star
      rcases exists_closer inside with inner | ⟨body,onward,rfl,inner⟩
      · exact ⟨_,[],by simp [openRemark],.starredOpen inner⟩
      · exact ⟨_,onward,by simp [remark],.starred inner⟩
    · exact ⟨_,others,rfl,.bracket star⟩
  by_cases digit : Text.isDigit c = true
  · obtain ⟨run,onward,rfl,all,stops⟩ := exists_run Text.isDigit others
    refine ⟨.numeral (c :: run),onward,rfl,.numeral (List.cons_ne_nil _ _) ?_ stops⟩
    exact List.forall_mem_cons.mpr ⟨digit,all⟩
  by_cases letter : Text.isLetter c = true
  · obtain ⟨run,onward,rfl,all,stops⟩ := exists_run Text.isWordChar others
    exact ⟨.word (c :: run),onward,rfl,.word letter all stops⟩
  by_cases quote : c = '\''
  · subst quote
    obtain ⟨body,onward,rfl,all,stops⟩ := exists_run (fun c => c != '\'' && c != '\n') others
    have bare : '\'' ∉ body := fun member => by simpa using all _ member
    have flat : '\n' ∉ body := fun member => by simpa using all _ member
    by_cases closed : onward.head? = some '\''
    · obtain ⟨later,rfl⟩ := List.head?_eq_some_iff.mp closed
      exact ⟨_,later,by simp [quoted],.quoted bare flat⟩
    · refine ⟨.openQuoted ('\'' :: body),onward,rfl,.quotedOpen bare flat ?_⟩
      intro c found
      have past := stops c found
      have other : c ≠ '\'' := fun same => closed (same ▸ found)
      simpa [other] using past
  have plain : Plain c := ⟨by simpa using bright,brace,bracket,by simpa using digit,by simpa using letter,quote⟩
  by_cases alone : ∀ b ∈ others.head?, TokenKind.mark? [c,b] = none
  · cases known : TokenKind.mark? [c] with
    | none => exact ⟨_,others,rfl,.stray plain known alone⟩
    | some kind => exact ⟨_,others,rfl,.single plain known alone⟩
  · obtain ⟨b,found,known⟩ : ∃ b ∈ others.head?, TokenKind.mark? [c,b] ≠ none := by simpa using alone
    obtain ⟨onward,rfl⟩ := List.head?_eq_some_iff.mp found
    obtain ⟨kind,known⟩ := Option.ne_none_iff_exists'.mp known
    exact ⟨_,onward,rfl,.pair plain known⟩

theorem exists_tiles (text : List Char) : ∃ segments, textOf segments = text ∧ Tiles segments [] := by
  by_cases more : text = []
  · exact ⟨[],more.symm,.nil⟩
  · obtain ⟨segment,onward,same,fits⟩ := exists_fits text more
    have shorter : onward.length < text.length := by
      have some := List.length_pos_iff.mpr fits.ne_nil
      simp only [same,List.length_append]
      omega
    obtain ⟨others,rfl,tiles⟩ := exists_tiles onward
    refine ⟨segment :: others,same.symm,.cons ?_ tiles⟩
    rwa [List.append_nil]
termination_by text.length

end Segment

end PascalCheck
