import PascalCheck.Proofs.Token.Resumption
import PascalCheck.Proofs.Token.Spelling

namespace PascalCheck

inductive Layout : List Char → Prop where
  | nil : Layout []
  | blank {c : Char} {others : List Char} (bright : Text.isBlank c = true) (layout : Layout others) :
      Layout (c :: others)
  | braced {body others : List Char} (inner : '\x7d' ∉ body) (layout : Layout others) :
      Layout ('\x7b' :: body ++ ['\x7d'] ++ others)
  | starred {body others : List Char} (inner : ¬ ['*',')'] <:+: body ++ ['*']) (layout : Layout others) :
      Layout ('(' :: '*' :: body ++ ['*',')'] ++ others)

namespace Scanner

inductive Loops (first : Scanner) : Scanner → Prop where
  | start : Loops first first
  | round {state next : Scanner} (loops : Loops first state) (more : state.rest ≠ [])
      (taken : state.step = .finished next) : Loops first next

-- Such a state, unless the lexeme that ends there is a string or a comment that was cut off.
inductive Seam (first : Scanner) : Scanner → Prop where
  | start : Seam first first
  | behind {state next : Scanner} (loops : Loops first state) (more : state.rest ≠ [])
      (taken : state.step = .finished next)
      (closed : ∀ entry ∈ next.cursor.sink.toList.drop state.cursor.sink.size,
        entry.code ≠ Problem.unterminatedString.code ∧ entry.code ≠ Problem.unterminatedComment.code) :
      Seam first next

end Scanner

namespace Segment

variable {segment : Segment} {segments : List Segment} {onward other text : List Char}

def Cut (segment : Segment) : Prop :=
  ∃ told ∈ segment.complaint, told.1 = .unterminatedString ∨ told.1 = .unterminatedComment

structure Parts (c : Char) : Prop where
  word : Text.isWordChar c = false
  star : c ≠ '*'
  pair : ∀ a, TokenKind.mark? [a,c] = none

theorem parts_of_opening {c : Char} (opening : Text.isBlank c = true ∨ c = '\x7b' ∨ c = '(') : Parts c := by
  have letter : Text.isLetter c = false := by
    rcases opening with bright | rfl | rfl
    · by_contra letter
      have dark := Text.dark_of_isLetter (c := c) (by simpa using letter)
      rw [bright] at dark
      cases dark
    · rfl
    · rfl
  have digit : Text.isDigit c = false := by
    rcases opening with bright | rfl | rfl
    · by_contra digit
      have dark := Text.dark_of_isDigit (c := c) (by simpa using digit)
      rw [bright] at dark
      cases dark
    · rfl
    · rfl
  refine ⟨by simp [Text.isWordChar,letter,digit],?_,?_⟩
  · rintro rfl
    revert opening
    decide
  · intro a
    refine Option.eq_none_iff_forall_ne_some.mpr fun kind known => ?_
    have found := TokenKind.mark_pair known
    simp only [List.mem_cons,Prod.mk.injEq,List.not_mem_nil,or_false] at found
    rcases found with ⟨-,rfl⟩ | ⟨-,rfl⟩ | ⟨-,rfl⟩ | ⟨-,rfl⟩ | ⟨-,rfl⟩
    all_goals revert opening; decide

theorem parts_of_layout (layout : Layout text) (some : text ≠ []) : ∀ c ∈ (text ++ onward).head?, Parts c := by
  intro c found
  cases layout with
  | nil => exact absurd rfl some
  | blank bright _ => exact parts_of_opening (Or.inl (Option.some.inj found ▸ bright))
  | braced _ _ => exact parts_of_opening (Or.inr (Or.inl (Option.some.inj found).symm))
  | starred _ _ => exact parts_of_opening (Or.inr (Or.inr (Option.some.inj found).symm))

-- In front of another text a segment ends where it did, if that text begins in the same way. One that
-- is not cut off may also stand in front of a character that parts it from what follows.
theorem Fits.elsewhere (fits : segment.Fits onward) (ends : segment.Cut → onward ≠ [] ∧ other.head? = onward.head?)
    (opens : ∀ c ∈ other.head?, c ∈ onward.head? ∨ Parts c) : segment.Fits other := by
  cases fits with
  | blank bright => exact .blank bright
  | braced inner => exact .braced inner
  | bracedOpen inner => exact absurd rfl (ends ⟨_,rfl,Or.inr rfl⟩).1
  | starred inner => exact .starred inner
  | starredOpen inner => exact absurd rfl (ends ⟨_,rfl,Or.inr rfl⟩).1
  | bracket single =>
    apply Fits.bracket
    intro found
    rcases opens _ found with same | parts
    · exact single same
    · exact parts.star rfl
  | numeral some all stops =>
    apply Fits.numeral some all
    intro c found
    rcases opens c found with same | parts
    · exact stops c same
    · exact (Bool.or_eq_false_iff.mp parts.word).2
  | word letter all stops =>
    apply Fits.word letter all
    intro c found
    rcases opens c found with same | parts
    · exact stops c same
    · exact parts.word
  | quoted quote line => exact .quoted quote line
  | quotedOpen quote line last =>
    apply Fits.quotedOpen quote line
    rw [(ends ⟨_,rfl,Or.inl rfl⟩).2]
    exact last
  | pair plain known => exact .pair plain known
  | single plain known alone =>
    apply Fits.single plain known
    intro c found
    rcases opens c found with same | parts
    · exact alone c same
    · exact parts.pair _
  | stray plain unknown alone =>
    apply Fits.stray plain unknown
    intro c found
    rcases opens c found with same | parts
    · exact alone c same
    · exact parts.pair _

-- Only the last segment sees what stands behind them all.
theorem Tiles.elsewhere (tiles : Tiles segments onward)
    (last : ∀ last ∈ segments.getLast?, last.Fits onward → last.Fits other) : Tiles segments other := by
  induction tiles with
  | nil => exact .nil
  | @cons onward segment others fits tiles ih =>
    cases others with
    | nil => exact .cons (last segment rfl fits) .nil
    | cons next others =>
      have front : textOf (next :: others) ≠ [] := fun none =>
        tiles.ne_nil next List.mem_cons_self (List.append_eq_nil_iff.mp none).1
      have same : (textOf (next :: others) ++ other).head? = (textOf (next :: others) ++ onward).head? := by
        rw [List.head?_append_of_ne_nil _ front,List.head?_append_of_ne_nil _ front]
      refine .cons (fits.elsewhere (fun _ => ⟨by simp [front],same⟩) ?_) (ih last)
      exact fun c found => Or.inl (same ▸ found)

theorem Tiles.before_layout (tiles : Tiles segments onward) (layout : Layout text)
    (closed : ∀ last ∈ segments.getLast?, ¬ last.Cut) : Tiles segments (text ++ onward) := by
  by_cases some : text = []
  · rwa [some]
  · apply tiles.elsewhere
    intro last found fits
    apply fits.elsewhere (fun cut => absurd cut (closed last found))
    exact fun c found => Or.inr (parts_of_layout layout some c found)

theorem Tiles.join {first second : List Segment} (here : Tiles first (textOf second)) (there : Tiles second []) :
    Tiles (first ++ second) [] := by
  rw [← List.append_nil (textOf second)] at here
  exact here.append there

theorem spells_layout (layout : Layout text) (plain : '\r' ∉ text) : Spells Anyhow text 1 := by
  induction layout with
  | nil => exact Spells.nil
  | blank bright _ ih =>
    obtain ⟨here,there⟩ := not_or.mp fun found => plain (List.mem_cons.mpr found)
    exact (Spells.blank bright here).before (ih there) fun _ _ => trivial
  | @braced body others inner _ ih =>
    obtain ⟨here,there⟩ := not_or.mp fun found => plain (List.mem_append.mpr found)
    have comment : Spells Anyhow ('\x7b' :: body ++ ['\x7d']) 1 :=
      Spells.ofSegment (.remark _) here (fun _ _ => .braced inner) rfl (short_of_head rfl) rfl
    exact comment.before (ih there) fun _ _ => trivial
  | @starred body others inner _ ih =>
    obtain ⟨here,there⟩ := not_or.mp fun found => plain (List.mem_append.mpr found)
    have comment : Spells Anyhow ('(' :: '*' :: body ++ ['*',')']) 1 :=
      Spells.ofSegment (.remark _) here (fun _ _ => .starred inner) rfl (short_of_head rfl) rfl
    exact comment.before (ih there) fun _ _ => trivial

end Segment

namespace Scanner
open Segment

variable {first state next last : Scanner} {segment : Segment} {segments : List Segment} {a b text : List Char}

structure Passes (first : Scanner) (segments : List Segment) (state : Scanner) : Prop where
  tiles : Tiles segments state.rest
  ahead : first.rest = textOf segments ++ state.rest
  moved : state = first.takeAll segments

theorem Passes.nil : Passes first [] first := ⟨.nil,rfl,rfl⟩

theorem Passes.concat (passes : Passes first segments state) (fits : segment.Fits next.rest)
    (ahead : state.rest = segment.text ++ next.rest) (moved : next = state.take segment) :
    Passes first (segments ++ [segment]) next := by
  have lone : textOf [segment] = segment.text := List.append_nil _
  have tiles := passes.tiles
  rw [ahead,← lone] at tiles
  refine ⟨tiles.append (.cons fits .nil),?_,?_⟩
  · rw [passes.ahead,ahead,textOf_append,lone,List.append_assoc]
  · rw [moved,passes.moved]
    simp [takeAll]

theorem segment_of_step (more : state.rest ≠ []) (taken : state.step = .finished next) :
    ∃ segment, segment.Fits next.rest ∧ state.rest = segment.text ++ next.rest ∧ next = state.take segment := by
  obtain ⟨segment,onward,same,fits⟩ := exists_fits state.rest more
  have short : ¬ segment.Overlong := by
    intro long
    rw [step_of_overlong fits same long] at taken
    cases taken
  rw [step_of_fits fits same short] at taken
  obtain rfl := Outcome.finished.inj taken
  have left : (state.take segment).rest = onward := by rw [rest_take,same,List.drop_left]
  rw [left]
  exact ⟨segment,fits,same,rfl⟩

theorem passes_of_loops (loops : Loops first state) : ∃ segments, Passes first segments state := by
  induction loops with
  | start => exact ⟨[],.nil⟩
  | round _ more taken ih =>
    obtain ⟨segments,passes⟩ := ih
    obtain ⟨segment,fits,ahead,moved⟩ := segment_of_step more taken
    exact ⟨segments ++ [segment],passes.concat fits ahead moved⟩

theorem whole_of_closed (moved : next = state.take segment)
    (closed : ∀ entry ∈ next.cursor.sink.toList.drop state.cursor.sink.size,
      entry.code ≠ Problem.unterminatedString.code ∧ entry.code ≠ Problem.unterminatedComment.code) :
    ¬ segment.Cut := by
  rintro ⟨⟨problem,message⟩,known,cut⟩
  have told : segment.complaint = some (problem,message) := known
  have size : state.cursor.sink.size = state.cursor.sink.toList.length := rfl
  rw [moved,reports_take,told,size,List.drop_left] at closed
  obtain ⟨noString,noComment⟩ := closed _ List.mem_cons_self
  rcases cut with rfl | rfl
  · exact noString rfl
  · exact noComment rfl

theorem passes_of_seam (seam : Seam first state) :
    ∃ segments, Passes first segments state ∧ ∀ last ∈ segments.getLast?, ¬ last.Cut := by
  cases seam with
  | start => exact ⟨[],.nil,fun _ found => by cases found⟩
  | behind loops more taken closed =>
    obtain ⟨segments,passes⟩ := passes_of_loops loops
    obtain ⟨segment,fits,ahead,moved⟩ := segment_of_step more taken
    refine ⟨segments ++ [segment],passes.concat fits ahead moved,?_⟩
    intro last found
    obtain rfl : segment = last := by simpa using found
    exact whole_of_closed moved closed

theorem parts_of_offset (plain : '\r' ∉ a ++ b) (passes : Passes (ofText (a ++ b)) segments state)
    (here : state.cursor.offset = a.length) : textOf segments = a ∧ state.rest = b := by
  obtain ⟨_,behind,_,_⟩ := found_of_takeAll (Cursor.located_ofText _) passes.ahead
  rw [← passes.moved] at behind
  have passed : state.cursor.behind.length = state.cursor.offset := List.length_reverse
  have size : (textOf segments).length = a.length := by
    rw [← here,← passed,behind]
    rfl
  have whole : textOf segments ++ state.rest = a ++ b := by
    rw [← passes.ahead]
    exact Text.normalize_of_plain plain
  exact List.append_inj whole size

-- A text that is parted at a seam gives, before and behind it, the same with layout in between.
theorem scan_with_layout (plain : '\r' ∉ a ++ b) (finished : (ofText (a ++ b)).scan = .finished first)
    (seam : Seam (ofText (a ++ b)) state) (here : state.cursor.offset = a.length) (layout : Layout text)
    (flat : '\r' ∉ text) :
    ∃ before inner after second, Adds (before ++ after) (ofText (a ++ b)) first ∧
      (ofText (a ++ text ++ b)).scan = .finished second ∧
      Adds (before ++ (inner ++ after)) (ofText (a ++ text ++ b)) second ∧
      inner.filterMap Segment.kind = [] ∧ ∀ segment ∈ inner, segment.complaint = none := by
  obtain ⟨before,passes,closed⟩ := passes_of_seam seam
  obtain ⟨sameA,sameB⟩ := parts_of_offset plain passes here
  obtain ⟨after,rest,tilesAfter⟩ := exists_tiles b
  obtain ⟨inner,laid,tilesInner,silent,clean⟩ := (spells_layout layout flat).read b trivial
  have tilesBefore : Tiles before b := sameB ▸ passes.tiles
  have tilesApart : Tiles before (text ++ b) := tilesBefore.before_layout layout closed
  -- Without the layout: the segments on both sides of the seam are those of the text.
  rw [← rest] at tilesBefore tilesInner
  have joined := tilesBefore.join tilesAfter
  have textJoined : textOf (before ++ after) = a ++ b := by rw [textOf_append,sameA,rest]
  have ahead : (ofText (a ++ b)).rest = textOf (before ++ after) ++ [] := by
    rw [textJoined,List.append_nil]
    exact Text.normalize_of_plain plain
  have short := short_of_finished joined ahead finished
  obtain ⟨last,ended,adds⟩ := adds_of_tiles joined (textJoined.trans (Text.normalize_of_plain plain).symm) short
  obtain rfl : first = last := Outcome.finished.inj (finished.symm.trans ended)
  -- With it: the same segments, and those of the layout.
  have textSpread : textOf (inner ++ after) = text ++ b := by rw [textOf_append,laid,rest]
  rw [← textSpread] at tilesApart
  have spread := tilesApart.join (tilesInner.join tilesAfter)
  have plainSpread : '\r' ∉ a ++ text ++ b := by
    simp only [List.mem_append] at plain ⊢
    tauto
  have textWhole : textOf (before ++ (inner ++ after)) = a ++ text ++ b := by
    rw [textOf_append,textSpread,sameA,List.append_assoc]
  have shortSpread : ∀ segment ∈ before ++ (inner ++ after), ¬ segment.Overlong := by
    obtain ⟨early,late⟩ := List.forall_mem_append.mp short
    have shortInner : ∀ segment ∈ inner, ¬ segment.Overlong := fun segment member => (clean segment member).2
    exact List.forall_mem_append.mpr ⟨early,List.forall_mem_append.mpr ⟨shortInner,late⟩⟩
  obtain ⟨second,other,addsOther⟩ :=
    adds_of_tiles spread (textWhole.trans (Text.normalize_of_plain plainSpread).symm) shortSpread
  exact ⟨before,inner,after,second,adds,other,addsOther,silent,fun segment member => (clean segment member).1⟩

end Scanner

end PascalCheck
