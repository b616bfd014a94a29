import PascalCheck.Proofs.Text.Numeral
import PascalCheck.Proofs.Token.Segment

namespace PascalCheck.Text

theorem isAsciiLetter_iff (c : Char) :
    isAsciiLetter c = true ↔ (97 ≤ c.toNat ∧ c.toNat ≤ 122) ∨ (65 ≤ c.toNat ∧ c.toNat ≤ 90) := by
  simp only [isAsciiLetter,Bool.or_eq_true,Bool.and_eq_true,decide_eq_true_eq,Char.le_def,UInt32.le_iff_toNat_le]
  rfl

theorem ne_of_test {p : Char → Bool} {c d : Char} (passes : p c = true) (fails : p d = false) : c ≠ d := by
  intro same
  rw [same,fails] at passes
  cases passes

theorem letterRuns_dark : ∀ run ∈ letterRuns, ∀ n ∈ [0x85,0xA0,0x1680,0x2000,0x2001,0x2002,0x2003,0x2004,
    0x2005,0x2006,0x2007,0x2008,0x2009,0x200A,0x2028,0x2029,0x202F,0x205F,0x3000], n < run.1 ∨ run.2 < n := by
  decide +kernel

theorem dark_of_isLetter {c : Char} (letter : isLetter c = true) : isBlank c = false := by
  by_contra bright
  have blank : isBlank c = true := by simpa using bright
  simp only [isBlank,Bool.or_eq_true,Bool.and_eq_true,decide_eq_true_eq,beq_iff_eq] at blank
  by_cases small : c.toNat < 128
  · rw [isLetter_of_ascii c small,isAsciiLetter_iff] at letter
    omega
  · simp only [isLetter,if_neg small,List.any_eq_true,Bool.and_eq_true,decide_eq_true_eq] at letter
    obtain ⟨run,member,above,below⟩ := letter
    have apart := letterRuns_dark run member c.toNat (by simp only [List.mem_cons]; omega)
    omega

theorem not_isDigit_of_isLetter {c : Char} (letter : isLetter c = true) : isDigit c = false := by
  by_contra digit
  have digit : isDigit c = true := by simpa using digit
  rw [isDigit_iff] at digit
  rw [isLetter_of_ascii c (by omega),isAsciiLetter_iff] at letter
  omega

theorem dark_of_isDigit {c : Char} (digit : isDigit c = true) : isBlank c = false := by
  rw [isDigit_iff] at digit
  by_contra bright
  have blank : isBlank c = true := by simpa using bright
  simp only [isBlank,Bool.or_eq_true,Bool.and_eq_true,decide_eq_true_eq,beq_iff_eq] at blank
  omega

end PascalCheck.Text

namespace PascalCheck

theorem TokenKind.mark_pair {a b : Char} {kind : TokenKind} (known : mark? [a,b] = some kind) :
    (a,b) ∈ [('.','.'),('<','>'),('<','='),('>','='),(':','=')] := by
  have all : ∀ kind ∈ marks, kind.spelling.toList.length = 2 →
      ∃ pair ∈ [('.','.'),('<','>'),('<','='),('>','='),(':','=')], kind.spelling.toList = [pair.1,pair.2] := by decide
  have spelled : kind.spelling.toList = [a,b] := by simpa using List.find?_some known
  obtain ⟨pair,member,same⟩ := all kind (List.mem_of_find?_eq_some known) (by rw [spelled]; rfl)
  rw [spelled] at same
  obtain ⟨rfl,rfl⟩ : a = pair.1 ∧ b = pair.2 := by simpa using same
  exact member

theorem TokenKind.mark_endMark (c : Char) : mark? [c,Cursor.endMark] = none := by
  refine Option.eq_none_iff_forall_ne_some.mpr fun kind known => ?_
  have found := mark_pair known
  simp [Cursor.endMark] at found

namespace Scanner
open Segment

def take (segment : Segment) (scanner : Scanner) : Scanner :=
  let place := scanner.cursor.position
  let passed := scanner.advanceBy segment.text.length
  let told := match segment.complaint with
    | some (problem,message) => passed.report problem place (some message)
    | none => passed
  match segment.kind with
  | some kind => told.emit kind place
  | none => told

theorem report_usual (scanner : Scanner) (problem : Problem) (place : Position) :
    scanner.report problem place none = scanner.report problem place (some problem.message) := by
  simp [report,Cursor.report,Sink.report,Sink.entry,Problem.messageOf_code]

theorem advanceBy_add (scanner : Scanner) (first second : Nat) :
    scanner.advanceBy (first + second) = (scanner.advanceBy first).advanceBy second := by
  simp [advanceBy,Cursor.advanceBy_add]

theorem beforeCloser_single {c : Char} {body : List Char} (inner : c ∉ body) (onward : List Char) :
    beforeCloser c none (body ++ c :: onward) = body ∧ beforeCloser c none body = body := by
  induction body with
  | nil => simp [beforeCloser]
  | cons first others ih =>
    obtain ⟨other,inner⟩ := not_or.mp (fun found => inner (List.mem_cons.mpr found))
    simp [beforeCloser,Ne.symm other,ih inner]

theorem beforeCloser_pass {c : Char} {others : List Char} (here : ¬ ['*',')'] <+: c :: others) :
    beforeCloser '*' (some ')') (c :: others) = c :: beforeCloser '*' (some ')') others := by
  have apart : ¬ (c = '*' ∧ (some ')').all (· == others.headD Cursor.endMark) = true) := by
    intro closes
    obtain ⟨rfl,second⟩ := closes
    cases others with
    | nil => exact absurd second (by decide)
    | cons d rest =>
      have same : ')' = d := by simpa using second
      exact here ⟨rest,by rw [← same]; rfl⟩
  rw [beforeCloser,if_neg apart]

theorem beforeCloser_open {body : List Char} (inner : ¬ ['*',')'] <:+: body) :
    beforeCloser '*' (some ')') body = body := by
  induction body with
  | nil => rfl
  | cons c others ih =>
    rw [beforeCloser_pass fun found => inner found.isInfix,ih fun found => inner (List.infix_cons found)]

theorem beforeCloser_closed {body onward : List Char} (inner : ¬ ['*',')'] <:+: body ++ ['*']) :
    beforeCloser '*' (some ')') (body ++ '*' :: ')' :: onward) = body := by
  induction body with
  | nil => simp [beforeCloser]
  | cons c others ih =>
    have here : ¬ ['*',')'] <+: c :: (others ++ '*' :: ')' :: onward) := by
      intro found
      refine inner (List.IsPrefix.isInfix ?_)
      have front : c :: (others ++ ['*']) <+: c :: (others ++ '*' :: ')' :: onward) := ⟨')' :: onward,by simp⟩
      exact List.prefix_of_prefix_length_le found front (by simp)
    rw [List.cons_append,beforeCloser_pass here,ih fun found => inner (List.infix_cons found)]

theorem comment_closed {scanner : Scanner} {first : Char} {others body onward : List Char}
    (inside : (scanner.advanceBy (openerSize (first :: others))).rest = body ++ first :: (others ++ onward))
    (closing : beforeCloser first others.head? (body ++ first :: (others ++ onward)) = body) :
    scanner.comment (first :: others) =
      .finished (scanner.advanceBy (openerSize (first :: others) + body.length + (first :: others).length)) := by
  rw [comment]
  simp only [inside,closing,advanceBy_add,rest_advanceBy _ body.length,List.drop_left]
  rfl

theorem comment_open {scanner : Scanner} {first : Char} {others body : List Char}
    (inside : (scanner.advanceBy (openerSize (first :: others))).rest = body)
    (closing : beforeCloser first others.head? body = body) :
    scanner.comment (first :: others) =
      .finished ((scanner.advanceBy (openerSize (first :: others) + body.length)).report .unterminatedComment
        scanner.cursor.position (some Problem.unterminatedComment.message)) := by
  rw [comment]
  simp only [inside,closing,advanceBy_add,rest_advanceBy _ body.length,List.drop_length,report_usual]
  rfl

-- The first characters of a segment tell which part of the scanner reads it.
theorem step_at_brace {scanner : Scanner} (brace : scanner.cursor.char = '\x7b') :
    scanner.step = scanner.comment ['\x7d'] := by
  have dark : Text.isBlank '\x7b' = false := rfl
  simp [step,brace,dark]

theorem step_at_star {scanner : Scanner} (bracket : scanner.cursor.char = '(') (star : scanner.cursor.next = '*') :
    scanner.step = scanner.comment ['*',')'] := by
  have dark : Text.isBlank '(' = false := rfl
  simp [step,bracket,star,dark]

theorem step_at_bracket {scanner : Scanner} (bracket : scanner.cursor.char = '(') (single : scanner.cursor.next ≠ '*') :
    scanner.step = .finished (scanner.take (.mark ['('] .lparen)) := by
  have dark : Text.isBlank '(' = false := rfl
  simp only [step,bracket,single,dark]
  rfl

theorem step_at_digit {scanner : Scanner} (digit : Text.isDigit scanner.cursor.char = true) :
    scanner.step = scanner.number := by
  have dark := Text.dark_of_isDigit digit
  have brace : scanner.cursor.char ≠ '\x7b' := Text.ne_of_test digit rfl
  have bracket : scanner.cursor.char ≠ '(' := Text.ne_of_test digit rfl
  simp [step,dark,brace,bracket,digit]

theorem step_at_letter {scanner : Scanner} (letter : Text.isLetter scanner.cursor.char = true) :
    scanner.step = scanner.word := by
  have dark := Text.dark_of_isLetter letter
  have digit := Text.not_isDigit_of_isLetter letter
  have brace : scanner.cursor.char ≠ '\x7b' := Text.ne_of_test letter rfl
  have bracket : scanner.cursor.char ≠ '(' := Text.ne_of_test letter rfl
  simp [step,dark,brace,bracket,digit,letter]

theorem step_at_quote {scanner : Scanner} (quote : scanner.cursor.char = '\'') : scanner.step = scanner.string := by
  have dark : Text.isBlank '\'' = false := rfl
  have digit : Text.isDigit '\'' = false := rfl
  have letter : Text.isLetter '\'' = false := rfl
  simp [step,quote,dark,digit,letter]

theorem step_at_plain {scanner : Scanner} (plain : Plain scanner.cursor.char) : scanner.step = scanner.mark := by
  simp [step,plain.dark,plain.brace,plain.bracket,plain.digit,plain.letter,plain.quote]

theorem no_pair {scanner : Scanner} {a : Char} {onward : List Char}
    (alone : ∀ b ∈ onward.head?, TokenKind.mark? [a,b] = none) (ahead : scanner.rest = a :: onward) :
    TokenKind.mark? [a,scanner.cursor.next] = none := by
  rw [Cursor.next_of_rest ahead]
  cases onward with
  | nil => exact TokenKind.mark_endMark a
  | cons b others => exact alone b rfl

theorem takeWhile_body {body onward : List Char} (quote : '\'' ∉ body) (line : '\n' ∉ body)
    (ends : ∀ c ∈ onward.head?, c = '\'' ∨ c = '\n') :
    (body ++ onward).takeWhile (fun c => c != '\'' && c != '\n') = body := by
  refine takeWhile_run ?_ ?_
  · intro c member
    have one : c ≠ '\'' := fun same => quote (same ▸ member)
    have two : c ≠ '\n' := fun same => line (same ▸ member)
    simp [one,two]
  · intro c found
    rcases ends c found with rfl | rfl <;> rfl

theorem number_of_run {scanner : Scanner} {digits onward : List Char} (some : digits ≠ [])
    (all : ∀ c ∈ digits, Text.isDigit c = true) (stops : Stops Text.isDigit onward)
    (ahead : scanner.rest = digits ++ onward) (short : ¬ Text.maxDigits < digits.length) :
    scanner.number = .finished (scanner.take (.numeral digits)) := by
  rw [number,ahead,takeWhile_run all stops]
  simp only [List.isEmpty_iff,if_neg some,if_neg short,take,Segment.numeral,report_usual,greatestPlain,greatestKept]
  generalize Text.valueOf (digits.map fun c => c.toNat - '0'.toNat) = value
  by_cases plain : value ≤ 32767
  · have kept : value ≤ 2147483647 := by omega
    simp [Nat.not_lt.mpr plain,Nat.not_lt.mpr kept,kept]
  · by_cases kept : value ≤ 2147483647
    · simp [Nat.lt_of_not_le plain,Nat.not_lt.mpr kept,kept]
    · simp [Nat.lt_of_not_le plain,Nat.lt_of_not_le kept,kept]

theorem word_of_run {scanner : Scanner} {run onward : List Char} (all : ∀ c ∈ run, Text.isWordChar c = true)
    (stops : Stops Text.isWordChar onward) (ahead : scanner.rest = run ++ onward) :
    scanner.word = .finished (scanner.take (.word run)) := by
  rw [word,ahead,takeWhile_run all stops]
  rfl

theorem string_of_body {scanner : Scanner} {body onward : List Char} (quote : '\'' ∉ body) (line : '\n' ∉ body)
    (ends : ∀ c ∈ onward.head?, c = '\'' ∨ c = '\n') (ahead : scanner.rest = '\'' :: body ++ onward) :
    scanner.string =
      if onward.head? = some '\'' then
        .finished ((scanner.advanceBy (1 + body.length + 1)).emit .string scanner.cursor.position)
      else .finished (((scanner.advanceBy (1 + body.length)).report .unterminatedString scanner.cursor.position
        (some Problem.unterminatedString.message)).emit .string scanner.cursor.position) := by
  have opened : (scanner.advanceBy 1).rest = body ++ onward := by simp [ahead]
  have closing : ((scanner.advanceBy 1).advanceBy body.length).rest = onward := by
    rw [rest_advanceBy,opened,List.drop_left]
  rw [string,opened,takeWhile_body quote line ends]
  simp only [closing,report_usual,advanceBy_add]

theorem step_of_fits {scanner : Scanner} {segment : Segment} {onward : List Char} (fits : segment.Fits onward)
    (ahead : scanner.rest = segment.text ++ onward) (short : ¬ segment.Overlong) :
    scanner.step = .finished (scanner.take segment) := by
  cases fits with
  | blank bright =>
    have here := Cursor.char_of_rest ahead
    simp [step,here,bright,take,Segment.blank]
  | @braced _ body inner =>
    have inside : (scanner.advanceBy (openerSize ['\x7d'])).rest = body ++ '\x7d' :: ([] ++ onward) := by
      simp [ahead,remark,openerSize]
    rw [step_at_brace (Cursor.char_of_rest ahead),comment_closed inside (beforeCloser_single inner onward).1]
    simp [take,remark,openerSize,Nat.add_comm 1]
  | @bracedOpen body inner =>
    have inside : (scanner.advanceBy (openerSize ['\x7d'])).rest = body := by simp [ahead,openRemark,openerSize]
    rw [step_at_brace (Cursor.char_of_rest ahead),comment_open inside (beforeCloser_single inner []).2]
    simp [take,openRemark,openerSize,Nat.add_comm 1]
  | @starred _ body inner =>
    have inside : (scanner.advanceBy (openerSize ['*',')'])).rest = body ++ '*' :: ([')'] ++ onward) := by
      simp [ahead,remark,openerSize]
    rw [step_at_star (Cursor.char_of_rest ahead) (Cursor.next_of_rest ahead),
      comment_closed inside (beforeCloser_closed inner)]
    simp [take,remark,openerSize,Nat.add_comm 2]
  | @starredOpen body inner =>
    have inside : (scanner.advanceBy (openerSize ['*',')'])).rest = body := by simp [ahead,openRemark,openerSize]
    rw [step_at_star (Cursor.char_of_rest ahead) (Cursor.next_of_rest ahead),comment_open inside (beforeCloser_open inner)]
    simp [take,openRemark,openerSize,Nat.add_comm 2]
  | bracket single =>
    have apart : scanner.cursor.next ≠ '*' := by
      rw [Cursor.next_of_rest ahead]
      cases onward with
      | nil => decide
      | cons c others => exact fun same => single (congrArg some same)
    exact step_at_bracket (Cursor.char_of_rest ahead) apart
  | @numeral _ digits some all stops =>
    obtain ⟨c,run,rfl⟩ := List.exists_cons_of_ne_nil some
    have here := Cursor.char_of_rest ahead
    have digit : Text.isDigit c = true := all c List.mem_cons_self
    rw [step_at_digit (here ▸ digit),number_of_run some all stops ahead fun long => short ⟨digit,long⟩]
  | @word _ first others letter all stops =>
    have here := Cursor.char_of_rest ahead
    have run : ∀ c ∈ first :: others, Text.isWordChar c = true :=
      List.forall_mem_cons.mpr ⟨by simp [Text.isWordChar,letter],all⟩
    rw [step_at_letter (here ▸ letter),word_of_run run stops ahead]
  | @quoted _ body quote line =>
    have behind : scanner.rest = '\'' :: body ++ '\'' :: onward := by simp [ahead,Segment.quoted]
    rw [step_at_quote (Cursor.char_of_rest ahead),string_of_body quote line (by simp) behind]
    simp [take,Segment.quoted,Nat.add_comm 1]
  | @quotedOpen _ body quote line ends =>
    have missing : onward.head? ≠ some '\'' := fun found => absurd (ends _ found) (by decide)
    rw [step_at_quote (Cursor.char_of_rest ahead),string_of_body quote line (fun c found => Or.inr (ends c found)) ahead,
      if_neg missing]
    simp [take,Segment.openQuoted,Nat.add_comm 1]
  | @pair _ a b kind plain known =>
    have here := Cursor.char_of_rest ahead
    have next : scanner.cursor.next = b := Cursor.next_of_rest ahead
    rw [step_at_plain (here ▸ plain),mark,here,next,known]
    rfl
  | @single _ a kind plain known alone =>
    have here := Cursor.char_of_rest ahead
    rw [step_at_plain (here ▸ plain),mark,here,no_pair alone ahead,known]
    rfl
  | @stray _ a plain unknown alone =>
    have here := Cursor.char_of_rest ahead
    rw [step_at_plain (here ▸ plain),mark,here,no_pair alone ahead,unknown]
    rfl

theorem run_of_digit {segment : Segment} {onward : List Char} (fits : segment.Fits onward)
    (digit : segment.text.head?.any Text.isDigit = true) :
    (∀ c ∈ segment.text, Text.isDigit c = true) ∧ Stops Text.isDigit onward := by
  cases fits with
  | numeral some all stops => exact ⟨all,stops⟩
  | blank bright => exact absurd bright (by simp [Text.dark_of_isDigit digit])
  | word letter all stops => exact absurd digit (by simp [Segment.word,Text.not_isDigit_of_isLetter letter])
  | pair plain known => exact absurd digit (by simp [Segment.mark,plain.digit])
  | single plain known alone => exact absurd digit (by simp [Segment.mark,plain.digit])
  | stray plain unknown alone => exact absurd digit (by simp [Segment.stray,plain.digit])
  | _ => cases digit

theorem step_of_overlong {scanner : Scanner} {segment : Segment} {onward : List Char} (fits : segment.Fits onward)
    (ahead : scanner.rest = segment.text ++ onward) (long : segment.Overlong) :
    scanner.step = .stopped (.tooManyDigits segment.text.length) (scanner.advanceBy segment.text.length) := by
  obtain ⟨digit,many⟩ := long
  obtain ⟨all,stops⟩ := run_of_digit fits digit
  obtain ⟨c,run,same⟩ := List.exists_cons_of_ne_nil fits.ne_nil
  have stands : scanner.rest = c :: (run ++ onward) := by rw [ahead,same]; rfl
  have here : scanner.cursor.char = c := Cursor.char_of_rest stands
  rw [step_at_digit (here ▸ all c (same ▸ List.mem_cons_self)),number,ahead,takeWhile_run all stops]
  simp only [List.isEmpty_iff,if_neg fits.ne_nil,if_pos many]

end Scanner

end PascalCheck
