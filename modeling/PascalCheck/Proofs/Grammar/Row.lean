import PascalCheck.Proofs.Grammar.Round

namespace PascalCheck

-- Such a clause begins with a name and has its semicolon in place. No recovery can come to rest inside it.
structure Clause.Row (barred : List TokenKind) (clause : Clause) : Prop where
  opens : clause.kinds.head? = some .ident
  mark : clause.mark.kind = .semi
  inner : ∀ token ∈ clause.tokens, token.kind ∉ [TokenKind.semi,.endWord,.dot] ++ barred

namespace Checker
open Grammar
open scoped Computability

variable {phrase : Phrases} {barred : List TokenKind} {item further : Checker → Checked} {clause : Clause}
  {checker other here there state : Checker} {tail otherTail taken unread : List Token}

-- An item for rows: behind the first name it is one more construct and the semicolon. The construct reads what a row
-- may be, and reads it alike in two checks in step, as long as they see no barred kind.
structure RowReader (phrase : Phrases) (barred : List TokenKind) (item further : Checker → Checked) : Prop where
  spares : TokenKind.semi ∉ barred
  splits : ∀ {checker : Checker}, checker.current = .ident → item checker = (further checker.next).andThen (need .semi)
  meets : ∀ {checker : Checker}, checker.current = .ident →
    Meets (checker.onwards (phrase * one .semi)) checker (Expects (checker.onwards (phrase * one .semi)) · (one .semi))
      (further checker.next)
  alike : ∀ {step : Checker → Checker → Prop} {one two : Checker}, InStep [.semi,.endWord] step →
    (∀ {one two}, step one two → one.current ∉ barred) → step one two → Alike step one two (further one) (further two)

structure RowVerdict (phrase : Phrases) (clause : Clause) (told : List Notice) : Prop where
  once : told.length ≤ 1
  clean : told = [] ↔ clause.kinds ∈ phrase
  mismatch : ∀ notice ∈ told, notice.code ∉ closing ∧ notice.place ∈ clause.places

structure TakesRow (item : Checker → Checked) (told : List Notice) (tail : List Token) (checker last : Checker) : Prop where
  round : recover item checker = .finished last
  rests : last.tokens.rest = tail
  notices : last.notices = checker.notices ++ told

def toldOfRow (item : Checker → Checked) (clause : Clause) : List Notice :=
  (recover item (ofTokens clause.all {})).after.notices

theorem toldOfRow_of_takes {told : List Notice} {last : Checker}
    (takes : TakesRow item told [] (ofTokens clause.all {}) last) : toldOfRow item clause = told := by
  rw [toldOfRow,takes.round,Outcome.after_finished,takes.notices]
  rfl

theorem stands_of_row (row : clause.Row barred) :
    ∃ first rest, clause.tokens = first :: rest ∧ first.kind = .ident := by
  cases tokens : clause.tokens with
  | nil => simpa [Clause.kinds,tokens] using row.opens
  | cons first rest => exact ⟨first,rest,rfl,by simpa [Clause.kinds,tokens] using row.opens⟩

theorem current_of_row (row : clause.Row barred) (start : checker.tokens.rest = clause.all ++ tail) :
    checker.current = .ident := by
  obtain ⟨first,rest,tokens,kind⟩ := stands_of_row row
  have stands : checker.tokens.rest = first :: (rest ++ clause.mark :: tail) := by simp [start,Clause.all,tokens]
  exact (current_of_rest stands).trans kind

theorem within_of_row (row : clause.Row barred) (start : checker.tokens.rest = clause.all ++ tail)
    (otherStart : other.tokens.rest = clause.all ++ otherTail) : Within clause tail otherTail checker.next other.next := by
  obtain ⟨first,rest,tokens,_⟩ := stands_of_row row
  have stands : checker.tokens.rest = first :: (rest ++ clause.mark :: tail) := by simp [start,Clause.all,tokens]
  have otherStands : other.tokens.rest = first :: (rest ++ clause.mark :: otherTail) := by
    simp [otherStart,Clause.all,tokens]
  refine ⟨[],first,rest,tokens,?_,?_,?_,?_⟩
  · rw [next_of_rest stands]; rfl
  · rw [next_of_rest otherStands]; rfl
  · rw [next_of_rest stands]
  · rw [next_of_rest otherStands]

theorem bars_of_row (row : clause.Row barred) (spares : TokenKind.semi ∉ barred)
    (within : Within clause tail otherTail here there) : here.current ∉ barred := by
  obtain ⟨taken,last,unread,split,_,_,stands,_⟩ := within
  cases unread with
  | nil =>
    rw [current_of_rest stands,row.mark]
    exact spares
  | cons next unread =>
    rw [current_of_rest stands]
    intro member
    exact row.inner next (by simp [split]) (List.mem_append_right _ member)

theorem no_stop_in_row (row : clause.Row barred) {token : Token} (inside : token ∈ clause.tokens) :
    isStop token.kind = false := by
  have inner := row.inner token inside
  simp only [List.mem_append,List.mem_cons,List.not_mem_nil,or_false,not_or] at inner
  simp [isStop,inner]

theorem takes_of_report (row : clause.Row barred) (quiet : Quiet checker state)
    (within : ∃ before, clause.tokens = before ++ unread) (stands : state.tokens.rest = unread ++ clause.mark :: tail)
    {code : Int} {place : Position} {message : Option String}
    (stopped : item checker = .stopped .reported (state.report code place message)) :
    ∃ last, TakesRow item [⟨code,place,message.getD (Problem.messageOf code)⟩] tail checker last := by
  obtain ⟨before,split⟩ := within
  have inner : ∀ token ∈ unread, isStop token.kind = false := by
    intro token member
    exact no_stop_in_row row (by simp [split,member])
  have reported : (state.report code place message).tokens.rest = unread ++ clause.mark :: tail := stands
  obtain ⟨same,rests⟩ := synchronize_at reported inner (by rw [row.mark]; rfl)
  refine ⟨(state.report code place message).synchronize isStop,?_,?_,?_⟩
  · rw [recover,stopped]
  · rw [rests,if_pos row.mark]
  · rw [same,notices_report,notices_of_quiet quiet]

theorem need_met {kind : TokenKind} (here : checker.current = kind) : checker.need kind = .finished checker.next := by
  rw [need,expect,if_pos here]

theorem takes_of_quiet (quiet : Quiet checker state) (finished : item checker = .finished state)
    (rests : state.tokens.rest = tail) : ∃ last, TakesRow item [] tail checker last := by
  refine ⟨state,?_,rests,?_⟩
  · rw [recover,finished]
  · rw [notices_of_quiet quiet,List.append_nil]

-- A verdict that two rounds come to, each where its check stands.
def Agree (phrase : Phrases) (item : Checker → Checked) (clause : Clause) (tail otherTail : List Token)
    (checker other : Checker) : Prop :=
  ∃ told, RowVerdict phrase clause told ∧ (∃ last, TakesRow item told tail checker last) ∧
    ∃ last, TakesRow item told otherTail other last

section
variable (row : clause.Row barred) (start : checker.tokens.rest = clause.all ++ tail)
include row start

theorem agree_of_report (between : Within clause tail otherTail here there) (quiet : Quiet checker here)
    (otherQuiet : Quiet other there) (deviates : Deviates (checker.onwards (phrase * one .semi)) here) {code : Int}
    {place : Position} {message : Option String} (mismatch : code ∉ closing) (inside : place ∈ clause.places)
    (stopped : item checker = .stopped .reported (here.report code place message))
    (otherStopped : item other = .stopped .reported (there.report code place message)) :
    Agree phrase item clause tail otherTail checker other := by
  obtain ⟨taken,last,unread,split,_,_,stands,otherStands⟩ := between
  have before : ∃ before, clause.tokens = before ++ unread := ⟨taken ++ [last],by simp [split]⟩
  have wrong : clause.kinds ∉ phrase := no_phrase_of_deviates quiet start (row.mark ▸ deviates)
  refine ⟨_,⟨Nat.le_refl _,iff_of_false (List.cons_ne_nil _ _) wrong,?_⟩,takes_of_report row quiet before stands stopped,
    takes_of_report row otherQuiet before otherStands otherStopped⟩
  intro notice member
  rw [List.mem_singleton.mp member]
  exact ⟨mismatch,inside⟩

theorem agree_of_read (between : Within clause tail otherTail here there) (quiet : Quiet checker here)
    (otherQuiet : Quiet other there) (expects : Expects (checker.onwards (phrase * one .semi)) here (one .semi))
    (ended : item checker = here.need .semi) (otherEnded : item other = there.need .semi) :
    Agree phrase item clause tail otherTail checker other := by
  obtain ⟨⟨sameLast,inside⟩,_⟩ := places_within between
  have ⟨taken,last,unread,split,_,_,stands,otherStands⟩ := between
  cases unread with
  | nil =>
    have current : here.current = .semi := (current_of_rest stands).trans row.mark
    have otherCurrent : there.current = .semi := (current_of_rest otherStands).trans row.mark
    rw [need_met current] at ended
    rw [need_met otherCurrent] at otherEnded
    have whole : clause.kinds ∈ phrase := phrase_of_expects quiet start stands (row.mark ▸ expects)
    exact ⟨[],⟨Nat.zero_le _,iff_of_true rfl whole,by simp⟩,
      takes_of_quiet (quiet.trans (quiet_next here)) ended (by rw [next_of_rest stands]),
      takes_of_quiet (otherQuiet.trans (quiet_next there)) otherEnded (by rw [next_of_rest otherStands])⟩
  | cons next unread =>
    have apart : next.kind ≠ .semi := by
      intro semi
      exact row.inner next (by simp [split]) (by simp [semi])
    have away : here.current ∉ [TokenKind.semi] := by simpa [current_of_rest stands] using apart
    have otherAway : there.current ≠ .semi := by simpa [current_of_rest otherStands] using apart
    rw [need,expect,if_neg (by simpa using away)] at ended
    rw [need,expect,if_neg otherAway,failAfter,reportAfter,← sameLast] at otherEnded
    exact agree_of_report row start between quiet otherQuiet (expects.deviates (Opens.one _) away) (by decide) inside
      ended otherEnded

theorem agree_of_row (reader : RowReader phrase barred item further)
    (otherStart : other.tokens.rest = clause.all ++ otherTail) :
    Agree phrase item clause tail otherTail checker other := by
  have named := current_of_row row start
  have within := within_of_row row start otherStart
  have ends : clause.mark.kind ∈ [TokenKind.semi,.endWord] := by simp [row.mark]
  have alike := reader.alike (inStep_within ends) (fun between => bars_of_row row reader.spares between) within
  have meets := reader.meets named
  have split := reader.splits named
  have otherSplit := reader.splits (current_of_row row otherStart)
  generalize further checker.next = ended at alike meets split
  generalize further other.next = otherEnded at alike otherSplit
  cases alike with
  | @finished here there quiet otherQuiet between =>
    have quiet := (quiet_next checker).trans quiet
    rcases meets with ⟨_,expects⟩ | told
    · exact agree_of_read row start between quiet ((quiet_next other).trans otherQuiet) expects split otherSplit
    · have size := size_of_told told
      rw [quiet.sink] at size
      exact absurd size (Nat.lt_irrefl _)
  | @failAfter here there quiet otherQuiet between code mismatch message =>
    have quiet := (quiet_next checker).trans quiet
    obtain ⟨⟨sameLast,inLast⟩,_⟩ := places_within between
    refine agree_of_report row start between quiet ((quiet_next other).trans otherQuiet)
      (deviates_of_stopped quiet meets) mismatch inLast split ?_
    rw [sameLast]
    exact otherSplit
  | @failHere here there quiet otherQuiet between code mismatch message =>
    have quiet := (quiet_next checker).trans quiet
    obtain ⟨_,sameCurrent,inCurrent⟩ := places_within between
    refine agree_of_report row start between quiet ((quiet_next other).trans otherQuiet)
      (deviates_of_stopped quiet meets) mismatch inCurrent split ?_
    rw [sameCurrent]
    exact otherSplit

theorem takes_row (reader : RowReader phrase barred item further) :
    RowVerdict phrase clause (toldOfRow item clause) ∧
      ∃ last, TakesRow item (toldOfRow item clause) tail checker last := by
  have alone : (ofTokens clause.all {}).tokens.rest = clause.all ++ [] := (List.append_nil _).symm
  obtain ⟨told,verdict,takes,last,takesAlone⟩ := agree_of_row row start reader alone
  rw [toldOfRow_of_takes takesAlone]
  exact ⟨verdict,takes⟩

end

theorem verdict_of_row (row : clause.Row barred) (reader : RowReader phrase barred item further) :
    RowVerdict phrase clause (toldOfRow item clause) := by
  have start : (ofTokens clause.all {}).tokens.rest = clause.all ++ [] := (List.append_nil _).symm
  exact (takes_row row start reader).1

theorem rounds_of_rows (progress : ∀ checker, checker.atName = true → (recover item checker).after.left < checker.left)
    (reader : RowReader phrase barred item further) {clauses : List Clause}
    (rows : ∀ clause ∈ clauses, clause.Row barred) (outside : tail.head?.map Token.kind ≠ some .ident) :
    ∀ checker : Checker, checker.tokens.rest = clauses.flatMap Clause.all ++ tail →
      ∃ last, repeatWhile atName (recover item) progress checker = .finished last ∧ last.tokens.rest = tail ∧
        last.notices = checker.notices ++ clauses.flatMap (toldOfRow item) := by
  induction clauses with
  | nil =>
    intro checker start
    have done : checker.atName = false := by
      cases tail with
      | nil => simp [atName,current,TokenStream.current,start]
      | cons token tail => simpa [atName,current,TokenStream.current,start] using outside
    exact ⟨checker,repeatWhile_done done,start,(List.append_nil _).symm⟩
  | cons clause clauses more =>
    intro checker start
    rw [List.flatMap_cons,List.append_assoc] at start
    rw [List.forall_mem_cons] at rows
    obtain ⟨_,between,takes⟩ := takes_row rows.1 start reader
    obtain ⟨last,rounds,rests,notices⟩ := more rows.2 between takes.rests
    have named : checker.atName = true := by simp [atName,current_of_row rows.1 start]
    refine ⟨last,?_,rests,?_⟩
    · rw [repeatWhile_round named,takes.round,Outcome.andThen_finished,rounds]
    · rw [notices,takes.notices,List.flatMap_cons,List.append_assoc]

end Checker
end PascalCheck
