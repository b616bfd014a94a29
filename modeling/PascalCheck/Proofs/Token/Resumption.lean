import PascalCheck.Proofs.Token.Tiling

namespace PascalCheck.Scanner
open Segment

variable {chars onward : List Char} {segments : List Segment} {scanner : Scanner}

inductive Reached (chars : List Char) : Scanner → Prop where
  | start (sink : Sink) : Reached chars { cursor := { Cursor.ofText chars with sink := sink } }
  | forward {scanner : Scanner} (reached : Reached chars scanner) : Reached chars (scanner.advanceBy 1)
  | scanned {scanner : Scanner} (reached : Reached chars scanner) : Reached chars scanner.scan.after

-- Between two states some segments have given their tokens and their reports, and nothing else was added.
structure Adds (segments : List Segment) (earlier later : Scanner) : Prop where
  tokens : later.tokenList = earlier.tokenList ++ tokensAfter earlier.cursor.behind segments
  reports : later.cursor.sink.toList = earlier.cursor.sink.toList ++
    (complaintsAfter earlier.cursor.behind segments).mapIdx fun i told => entry (earlier.cursor.sink.size + i) told

-- How a scan ends over the segments ahead of it. One that is cut short leaves the scanner just behind the
-- number, and the scan after it ends in the same way over the segments that are left.
inductive Scans : List Segment → Scanner → Outcome Fault Scanner → Prop where
  | finished {segments : List Segment} {scanner last : Scanner} (short : ∀ segment ∈ segments, ¬ segment.Overlong)
      (adds : Adds segments scanner last) (behind : last.cursor.behind = scanner.cursor.behind ++ textOf segments)
      (read : last.rest = []) : Scans segments scanner (.finished last)
  | stopped {before others : List Segment} {number : Segment} {scanner last : Scanner}
      (short : ∀ segment ∈ before, ¬ segment.Overlong) (long : number.Overlong) (adds : Adds before scanner last)
      (behind : last.cursor.behind = scanner.cursor.behind ++ textOf before ++ number.text)
      (ahead : last.rest = textOf others) (resumes : Scans others last last.scan) :
      Scans (before ++ number :: others) scanner (.stopped (.tooManyDigits number.text.length) last)

theorem located_takeAll (segments : List Segment) (located : scanner.cursor.Located) :
    (scanner.takeAll segments).cursor.Located := by
  induction segments generalizing scanner with
  | nil => exact located
  | cons segment others ih => exact ih (located_take located)

theorem adds_of_takeAll (located : scanner.cursor.Located) (ahead : scanner.rest = textOf segments ++ onward) :
    Adds segments scanner (scanner.takeAll segments) := by
  obtain ⟨_,_,tokens,reports⟩ := found_of_takeAll located ahead
  exact ⟨tokens,reports⟩

theorem scan_ends (tiles : Tiles segments []) (ahead : scanner.rest = textOf segments) :
    ((∀ segment ∈ segments, ¬ segment.Overlong) ∧ scanner.scan = .finished (scanner.takeAll segments)) ∨
    ∃ before number others, segments = before ++ number :: others ∧ (∀ segment ∈ before, ¬ segment.Overlong) ∧
      number.Overlong ∧ Tiles others [] ∧
      scanner.scan = .stopped (.tooManyDigits number.text.length)
        ((scanner.takeAll before).advanceBy number.text.length) := by
  induction segments generalizing scanner with
  | nil => exact Or.inl ⟨List.forall_mem_nil _,scan_at_end scanner ahead⟩
  | cons segment others ih =>
    obtain _ | ⟨fits,tiles⟩ := tiles
    rw [← List.append_nil (textOf (segment :: others))] at ahead
    obtain ⟨split,left⟩ := ahead_of_cons ahead
    rw [List.append_nil] at left
    have more : scanner.rest ≠ [] := by simp [split,fits.ne_nil]
    by_cases long : segment.Overlong
    · refine Or.inr ⟨[],segment,others,rfl,List.forall_mem_nil _,long,tiles,?_⟩
      rw [scan_step scanner more,step_of_overlong fits split long]
      rfl
    · have taken : scanner.scan = (scanner.take segment).scan := by
        rw [scan_step scanner more,step_of_fits fits split long]
        rfl
      rcases ih tiles left with ⟨short,ended⟩ | ⟨before,number,after,rfl,short,overlong,behind,ended⟩
      · exact Or.inl ⟨List.forall_mem_cons.mpr ⟨long,short⟩,taken.trans ended⟩
      · refine Or.inr ⟨segment :: before,number,after,rfl,?_,overlong,behind,taken.trans ended⟩
        exact List.forall_mem_cons.mpr ⟨long,short⟩

theorem textOf_append (first second : List Segment) : textOf (first ++ second) = textOf first ++ textOf second :=
  List.flatMap_append

theorem textOf_split (before others : List Segment) (number : Segment) :
    textOf (before ++ number :: others) = textOf before ++ (number.text ++ textOf others) := textOf_append _ _

theorem stands_of_number {before others : List Segment} {number : Segment} (located : scanner.cursor.Located)
    (ahead : scanner.rest = textOf before ++ (number.text ++ textOf others)) :
    ((scanner.takeAll before).advanceBy number.text.length).cursor.behind =
        scanner.cursor.behind ++ textOf before ++ number.text ∧
      ((scanner.takeAll before).advanceBy number.text.length).rest = textOf others := by
  obtain ⟨left,passed,_,_⟩ := found_of_takeAll located ahead
  constructor
  · have moved := Cursor.behind_advanceBy (scanner.takeAll before).cursor number.text.length
    rw [show (scanner.takeAll before).cursor.rest = _ from left,List.take_left,passed] at moved
    exact moved
  · rw [rest_advanceBy,left,List.drop_left]

theorem scans_of_tiles {segments : List Segment} {scanner : Scanner} (tiles : Tiles segments [])
    (located : scanner.cursor.Located) (ahead : scanner.rest = textOf segments) :
    Scans segments scanner scanner.scan := by
  rcases scan_ends tiles ahead with ⟨short,ended⟩ | ⟨before,number,others,same,short,long,tiles,ended⟩
  · rw [← List.append_nil (textOf segments)] at ahead
    obtain ⟨read,passed,_,_⟩ := found_of_takeAll located ahead
    rw [ended]
    exact .finished short (adds_of_takeAll located ahead) passed read
  · rw [same,textOf_split] at ahead
    obtain ⟨behind,left⟩ := stands_of_number located ahead
    have after := (located_takeAll before located).advanceBy number.text.length
    have fewer : others.length < segments.length := by simp only [same,List.length_append,List.length_cons]; omega
    have resumes := scans_of_tiles tiles after left
    obtain ⟨tokens,reports⟩ := adds_of_takeAll located ahead
    rw [ended,same]
    refine .stopped short long ⟨tokens,?_⟩ behind left resumes
    rw [← reports]
    exact congrArg Sink.toList (Cursor.sink_advanceBy (scanner.takeAll before).cursor number.text.length)
termination_by segments.length

theorem located_of_reached (reached : Reached chars scanner) :
    scanner.cursor.Located ∧ scanner.cursor.behind ++ scanner.rest = Text.normalize chars := by
  induction reached with
  | start sink => exact ⟨rfl,rfl⟩
  | @forward scanner _ ih =>
    obtain ⟨located,text⟩ := ih
    refine ⟨located.advanceBy 1,?_⟩
    rw [← text,rest_advanceBy,show (scanner.advanceBy 1).cursor = scanner.cursor.advanceBy 1 from rfl,
      Cursor.behind_advanceBy,List.append_assoc]
    exact congrArg _ (List.take_append_drop 1 scanner.rest)
  | @scanned scanner _ ih =>
    obtain ⟨located,text⟩ := ih
    obtain ⟨segments,same,tiles⟩ := exists_tiles scanner.rest
    rcases scan_ends tiles same.symm with ⟨_,ended⟩ | ⟨before,number,others,rfl,_,_,_,ended⟩
    · have ahead : scanner.rest = textOf segments ++ [] := by rw [same,List.append_nil]
      obtain ⟨read,passed,_,_⟩ := found_of_takeAll located ahead
      rw [ended,Outcome.after_finished,read,passed,same,List.append_nil]
      exact ⟨located_takeAll segments located,text⟩
    · rw [textOf_split] at same
      obtain ⟨behind,left⟩ := stands_of_number located same.symm
      rw [ended,Outcome.after_stopped,behind,left]
      refine ⟨(located_takeAll before located).advanceBy _,?_⟩
      rw [← text,← same]
      simp only [List.append_assoc]

theorem adds_of_scan (finished : (ofText chars).scan = .finished scanner) :
    ∃ segments, Tiles segments [] ∧ textOf segments = Text.normalize chars ∧ Adds segments (ofText chars) scanner := by
  obtain ⟨segments,same,tiles⟩ := exists_tiles (Text.normalize chars)
  have scans : Scans segments (ofText chars) (ofText chars).scan :=
    scans_of_tiles tiles (Cursor.located_ofText chars) same.symm
  rw [finished] at scans
  obtain ⟨_,adds,_,_⟩ := scans
  exact ⟨segments,tiles,same,adds⟩

theorem adds_of_tiles (tiles : Tiles segments []) (same : textOf segments = Text.normalize chars)
    (short : ∀ segment ∈ segments, ¬ segment.Overlong) :
    ∃ last, (ofText chars).scan = .finished last ∧ Adds segments (ofText chars) last := by
  have ahead : (ofText chars).rest = textOf segments := same.symm
  have located : (ofText chars).cursor.Located := Cursor.located_ofText _
  refine ⟨_,finished_of_tiles tiles located ahead short,?_⟩
  rw [← List.append_nil (textOf segments)] at ahead
  exact adds_of_takeAll located ahead

structure Gives (segments : List Segment) (tokens : List Token) (sink : Sink) : Prop where
  tokens : tokens = tokensAfter [] segments
  reports : sink.toList = (complaintsAfter [] segments).mapIdx entry

theorem gives_of_adds (adds : Adds segments (ofText chars) scanner) :
    Gives segments scanner.tokenList scanner.cursor.sink := by
  have none : (ofText chars).cursor.sink.toList = [] := rfl
  have zero : (ofText chars).cursor.sink.size = 0 := rfl
  refine ⟨adds.tokens,adds.reports.trans ?_⟩
  rw [none,zero,List.nil_append]
  simp only [Nat.zero_add]
  rfl

theorem tokenize_of_tiles (tiles : Tiles segments []) (same : textOf segments = Text.normalize chars)
    (short : ∀ segment ∈ segments, ¬ segment.Overlong) :
    ∃ tokens sink, tokenize chars = .ok (tokens,sink) ∧ Gives segments tokens sink := by
  obtain ⟨last,finished,adds⟩ := adds_of_tiles tiles same short
  refine ⟨_,_,?_,gives_of_adds adds⟩
  rw [tokenize,finished]

theorem tiles_of_tokenize {tokens : List Token} {sink : Sink} (scanned : tokenize chars = .ok (tokens,sink)) :
    ∃ segments, Tiles segments [] ∧ textOf segments = Text.normalize chars ∧
      (∀ segment ∈ segments, ¬ segment.Overlong) ∧ Gives segments tokens sink := by
  obtain ⟨segments,same,tiles⟩ := exists_tiles (Text.normalize chars)
  cases ended : (ofText chars).scan with
  | stopped fault state =>
    rw [tokenize,ended] at scanned
    cases scanned
  | finished last =>
    rw [tokenize,ended] at scanned
    cases scanned
    have ahead : (ofText chars).rest = textOf segments ++ [] := by
      rw [List.append_nil,same]
      rfl
    have short := short_of_finished tiles ahead ended
    obtain ⟨found,finished,adds⟩ := adds_of_tiles tiles same short
    cases ended.symm.trans finished
    exact ⟨segments,tiles,same,short,gives_of_adds adds⟩

theorem overlong_iff_run (tiles : Tiles segments onward) :
    (∃ segment ∈ segments, segment.Overlong) ↔
      ∃ segment ∈ segments, (∀ c ∈ segment.text, Text.isDigit c = true) ∧ 4300 < segment.text.length := by
  induction tiles with
  | nil => simp
  | @cons _ segment others fits _ ih =>
    have here : segment.Overlong ↔ (∀ c ∈ segment.text, Text.isDigit c = true) ∧ 4300 < segment.text.length := by
      constructor
      · intro ⟨digit,many⟩
        exact ⟨(run_of_digit fits digit).1,many⟩
      · intro ⟨all,many⟩
        obtain ⟨c,run,same⟩ := List.exists_cons_of_ne_nil fits.ne_nil
        have digit := all c (same ▸ List.mem_cons_self)
        exact ⟨by simp [same,digit],many⟩
    simp only [List.mem_cons,exists_eq_or_imp,ih,here]

theorem stopped_iff_overlong {outcome : Outcome Fault Scanner} (scans : Scans segments scanner outcome) :
    (∃ fault state, outcome = .stopped fault state) ↔ ∃ segment ∈ segments, segment.Overlong := by
  cases scans with
  | finished short =>
    constructor
    · rintro ⟨_,_,same⟩
      cases same
    · rintro ⟨segment,member,long⟩
      exact absurd long (short segment member)
  | @stopped before others number _ last short long =>
    constructor
    · intro _
      exact ⟨number,by simp,long⟩
    · intro _
      exact ⟨_,last,rfl⟩

-- From any state that a scanner can be led to, the next scan is told by the segments of what is ahead.
theorem scan_stops_at_long_numbers (chars : List Char) (scanner : Scanner) (reached : Reached chars scanner) :
    scanner.cursor.behind ++ scanner.rest = Text.normalize chars ∧
      (∃ segments, Tiles segments [] ∧ textOf segments = scanner.rest) ∧
      ∀ segments, Tiles segments [] → textOf segments = scanner.rest →
        Scans segments scanner scanner.scan ∧
          ((∃ fault state, scanner.scan = .stopped fault state) ↔
            ∃ segment ∈ segments, (∀ c ∈ segment.text, Text.isDigit c = true) ∧ 4300 < segment.text.length) := by
  obtain ⟨located,text⟩ := located_of_reached reached
  obtain ⟨segments,same,tiles⟩ := exists_tiles scanner.rest
  refine ⟨text,⟨segments,tiles,same⟩,?_⟩
  intro segments tiles same
  have scans := scans_of_tiles tiles located same.symm
  exact ⟨scans,(stopped_iff_overlong scans).trans (overlong_iff_run tiles)⟩

theorem scan_resumes_behind_number :
    let chars := List.replicate 4301 '7' ++ " {8} x".toList
    let scanner := Scanner.advanceBy { cursor := { Cursor.ofText chars with sink := {} } : Scanner }.scan.after 1
    Reached chars scanner ∧
      scanner.cursor.behind ++ scanner.rest = Text.normalize chars ∧
      (∃ segments, Tiles segments [] ∧ textOf segments = scanner.rest) ∧
      ∀ segments, Tiles segments [] → textOf segments = scanner.rest →
        Scans segments scanner scanner.scan ∧
          ((∃ fault state, scanner.scan = .stopped fault state) ↔
            ∃ segment ∈ segments, (∀ c ∈ segment.text, Text.isDigit c = true) ∧ 4300 < segment.text.length) := by
  intro chars scanner
  have reached : Reached chars scanner := .forward (.scanned (.start {}))
  exact ⟨reached,scan_stops_at_long_numbers chars scanner reached⟩

end PascalCheck.Scanner
