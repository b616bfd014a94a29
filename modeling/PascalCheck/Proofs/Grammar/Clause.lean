import PascalCheck.Proofs.Grammar.Acceptance
import PascalCheck.Proofs.Grammar.Straight

namespace PascalCheck
open scoped Computability

theorem Tape.eq_of_index {α : Type} {first second : Tape α} (run : first.toList = second.toList)
    (index : first.index = second.index) : first = second := by
  obtain ⟨passed,rest⟩ := List.append_inj run (by simpa [Tape.index] using index)
  rcases first with ⟨_,_⟩
  rcases second with ⟨_,_⟩
  cases List.reverse_inj.mp passed
  cases rest
  rfl

structure Clause where
  tokens : List Token
  mark : Token
deriving DecidableEq, Repr

namespace Clause

def kinds (clause : Clause) : List TokenKind := clause.tokens.map Token.kind

def all (clause : Clause) : List Token := clause.tokens ++ [clause.mark]

def places (clause : Clause) : List Position := clause.all.map Token.position

def past (clause : Clause) (tail : List Token) : List Token :=
  if clause.mark.kind = .semi then tail else clause.mark :: tail

structure Proper (clause : Clause) : Prop where
  mark : clause.mark.kind ∈ [TokenKind.semi,.endWord]
  inner : ∀ token ∈ clause.tokens, token.kind ∉ [TokenKind.semi,.endWord,.eof]

-- Of the clause so much has been taken, and rightly so, but it cannot go on with what is unread.
structure Fault (clause : Clause) (taken unread : List Token) : Prop where
  split : clause.tokens = taken ++ unread
  wrong : clause.kinds ∉ Grammar.optional Grammar.statement
  viable : ∃ phrase ∈ Grammar.optional Grammar.statement, taken.map Token.kind <+: phrase
  refused : ∀ kind, (unread.map Token.kind).head? = some kind →
    (kind = .dot → (unread.map Token.kind)[1]? = some .ident) →
    ∀ phrase ∈ Grammar.statement, ¬ taken.map Token.kind ++ [kind] <+: phrase

end Clause

namespace Checker
open Grammar

variable {clause : Clause} {checker other state : Checker} {tail otherTail taken unread : List Token}

-- Two checks that have taken the same tokens of a clause, at least one.
def Within (clause : Clause) (tail otherTail : List Token) (checker other : Checker) : Prop :=
  ∃ taken last unread, clause.tokens = taken ++ last :: unread ∧
    checker.tokens.passed.head? = some last ∧ other.tokens.passed.head? = some last ∧
    checker.tokens.rest = unread ++ clause.mark :: tail ∧ other.tokens.rest = unread ++ clause.mark :: otherTail

theorem current_of_rest {token : Token} {rest : List Token} (same : checker.tokens.rest = token :: rest) :
    checker.current = token.kind := by
  simp only [current,TokenStream.current,same]

theorem next_of_rest {token : Token} {rest : List Token} (same : checker.tokens.rest = token :: rest) :
    checker.next.tokens = ⟨token :: checker.tokens.passed,rest⟩ := by
  rcases checker with ⟨⟨passed,_⟩,sink,journal⟩
  cases same
  rfl

theorem inStep_within (ends : clause.mark.kind ∈ [TokenKind.semi,.endWord]) :
    InStep [.semi,.endWord] (Within clause tail otherTail) := by
  constructor
  · rintro checker other ⟨taken,last,_ | ⟨token,unread⟩,_,_,_,first,second⟩
    · exact (current_of_rest first).trans (current_of_rest second).symm
    · exact (current_of_rest first).trans (current_of_rest second).symm
  · rintro checker other ⟨taken,last,unread,split,_,_,first,second⟩ dot
    rcases unread with _ | ⟨token,_ | ⟨name,unread⟩⟩
    · rw [← current_of_rest first,dot] at ends
      simp at ends
    · simp [TokenStream.following,first,second]
    · simp [TokenStream.following,first,second]
  · rintro checker other ⟨taken,last,unread,split,_,_,first,second⟩ inner
    cases unread with
    | nil => exact absurd ends (by rwa [current_of_rest first] at inner)
    | cons token unread =>
      refine ⟨taken ++ [last],token,unread,by simp [split],?_,?_,?_,?_⟩
      · rw [next_of_rest first]; rfl
      · rw [next_of_rest second]; rfl
      · rw [next_of_rest first]; rfl
      · rw [next_of_rest second]; rfl

def onwards (checker : Checker) (phrase : Phrases) : Phrases := ({checker.behind} : Phrases) * phrase

theorem expects_onwards (checker : Checker) (phrase : Phrases) : Expects (checker.onwards phrase) checker phrase := by
  constructor
  · intro word member
    exact Language.append_mem_mul rfl member
  · intro sentence held _
    obtain ⟨front,same,word,member,rfl⟩ := Language.mem_mul.mp held
    exact ⟨word,member,same ▸ rfl⟩

def framed (checker : Checker) (mark : TokenKind) : Phrases :=
  ({checker.behind} : Phrases) * (optional Grammar.statement * one mark)

theorem expects_framed (checker : Checker) (mark : TokenKind) :
    Expects (framed checker mark) checker (optional Grammar.statement * one mark) := expects_onwards checker _

theorem meets_statement (checker : Checker) {mark : TokenKind} (ends : mark ∈ [TokenKind.semi,.endWord]) :
    Meets (framed checker mark) checker (Expects (framed checker mark) · (one mark)) checker.statement := by
  have opens : Opens [.semi,.endWord] (one mark) := (Opens.one mark).mono (by simpa using ends)
  exact reads_statement.meets opens (expects_framed checker mark)

theorem behind_within (quiet : Quiet checker state) (split : clause.tokens = taken ++ unread)
    (start : checker.tokens.rest = clause.all ++ tail) (stands : state.tokens.rest = unread ++ clause.mark :: tail) :
    state.behind = checker.behind ++ taken.map Token.kind := by
  have kinds : state.behind ++ state.ahead = checker.behind ++ checker.ahead := by
    rw [behind_ahead,behind_ahead,quiet.tokens]
  have whole : checker.ahead = taken.map Token.kind ++ state.ahead := by
    simp [ahead,start,stands,Clause.all,split]
  rw [whole,← List.append_assoc] at kinds
  exact List.append_cancel_right kinds

theorem deviates_congr {whole : Phrases} (same : checker.tokens = other.tokens) (deviates : Deviates whole checker) :
    Deviates whole other := by
  rcases checker with ⟨tokens,sink,journal⟩
  rcases other with ⟨others,sink',journal'⟩
  cases same
  exact ⟨deviates.viable,deviates.refused⟩

-- In a check that is quiet so far, the place is told by the number of tokens passed.
theorem tokens_of_index {between : Checker} (first : Quiet checker between) (second : Quiet checker state)
    (index : between.tokens.index = state.tokens.index) : between.tokens = state.tokens :=
  Tape.eq_of_index (first.tokens.trans second.tokens.symm) index

theorem deviates_of_stopped {whole : Phrases} {good : Checker → Prop} {code : Int} {place : Position}
    {message : Option String} (quiet : Quiet checker state)
    (meets : Meets whole checker good (.stopped .reported (state.report code place message))) : Deviates whole state := by
  obtain ⟨between,_,_,_,before,deviates,_,later⟩ := meets
  obtain ⟨notes,journal⟩ := later.journal
  have index : between.tokens.index = state.tokens.index ∧ notes = [] := by
    simpa [report,before.journal,quiet.journal] using journal
  exact deviates_congr (tokens_of_index before quiet index.1) deviates

section
variable {phrase : Phrases} {kind : TokenKind}

theorem taken_of_expects (expects : Expects (checker.onwards (phrase * one kind)) state (one kind)) :
    ∃ taken ∈ phrase, state.behind = checker.behind ++ taken := by
  obtain ⟨front,same,rest,member,whole⟩ := Language.mem_mul.mp (expects.complete [kind] rfl)
  obtain ⟨word,inside,_,rfl,rfl⟩ := Language.mem_mul.mp member
  rw [show front = checker.behind from same,← List.append_assoc] at whole
  exact ⟨word,inside,(List.append_cancel_right whole).symm⟩

theorem no_front_of_deviates (quiet : Quiet checker state)
    (deviates : Deviates (checker.onwards (phrase * one kind)) state) :
    ∀ word ∈ phrase, ¬ word ++ [kind] <+: checker.ahead := by
  rintro word member ⟨rest,same⟩
  have sentence : checker.behind ++ (word ++ [kind]) ∈ checker.onwards (phrase * one kind) :=
    Language.append_mem_mul rfl (Language.append_mem_mul member rfl)
  refine deviates.refused _ sentence (inSight_of_front ⟨rest,?_⟩)
  rw [behind_ahead,quiet.tokens,← behind_ahead,List.append_assoc,same]

end

section
variable {phrase : Phrases} (quiet : Quiet checker state) (start : checker.tokens.rest = clause.all ++ tail)
include quiet start

theorem phrase_of_expects (stands : state.tokens.rest = clause.mark :: tail)
    (expects : Expects (checker.onwards (phrase * one clause.mark.kind)) state (one clause.mark.kind)) :
    clause.kinds ∈ phrase := by
  have here : state.behind = checker.behind ++ clause.kinds :=
    behind_within quiet (List.append_nil _).symm start stands
  obtain ⟨taken,inside,same⟩ := taken_of_expects expects
  rw [here] at same
  exact List.append_cancel_left same ▸ inside

theorem no_phrase_of_deviates (deviates : Deviates (checker.onwards (phrase * one clause.mark.kind)) state) :
    clause.kinds ∉ phrase := by
  intro whole
  refine no_front_of_deviates quiet deviates _ whole ⟨tail.map Token.kind,?_⟩
  simp [ahead,start,Clause.all,Clause.kinds]

end

theorem fault_of_deviates (proper : clause.Proper) (quiet : Quiet checker state) (split : clause.tokens = taken ++ unread)
    (start : checker.tokens.rest = clause.all ++ tail) (stands : state.tokens.rest = unread ++ clause.mark :: tail)
    (deviates : Deviates (framed checker clause.mark.kind) state) : clause.Fault taken unread := by
  have here := behind_within quiet split start stands
  have kinds : state.ahead = unread.map Token.kind ++ clause.mark.kind :: tail.map Token.kind := by
    simp [ahead,stands]
  have sentence : ∀ phrase ∈ optional Grammar.statement,
      checker.behind ++ (phrase ++ [clause.mark.kind]) ∈ framed checker clause.mark.kind :=
    fun phrase held => Language.append_mem_mul rfl (Language.append_mem_mul held rfl)
  constructor
  · exact split
  · exact no_phrase_of_deviates quiet start deviates
  · obtain ⟨word,held⟩ := deviates.viable
    obtain ⟨front,same,rest,member,whole⟩ := Language.mem_mul.mp held
    obtain ⟨phrase,statement,_,rfl,rfl⟩ := Language.mem_mul.mp member
    rw [here,show front = checker.behind from same,List.append_assoc,List.append_cancel_left_eq] at whole
    have begins : taken.map Token.kind <+: phrase ++ [clause.mark.kind] := ⟨word,whole.symm⟩
    rcases List.prefix_concat_iff.mp begins with past | inside
    · have member : clause.mark.kind ∈ taken.map Token.kind := by simp [past]
      obtain ⟨token,inTaken,kind⟩ := List.mem_map.mp member
      have inner := proper.inner token (split ▸ List.mem_append_left _ inTaken)
      rw [kind] at inner
      have mark := proper.mark
      simp at inner mark
      exact absurd mark (by simp [inner])
    · exact ⟨phrase,statement,inside⟩
  · rintro kind first field phrase held ⟨rest,rfl⟩
    have member := sentence _ (Or.inr held)
    rw [List.append_assoc,List.append_assoc,← List.append_assoc,← here] at member
    refine deviates.refused _ member (inSight_append.mpr ?_)
    -- A dot in front of an identifier is no reason to look further.
    cases more : unread.map Token.kind with
    | nil => simp [more] at first
    | cons next others =>
      rw [more] at first field kinds
      have same : next = kind := by simpa using first
      have near : sight state.ahead = 1 := by
        refine if_neg ?_
        rintro ⟨dot,away⟩
        have named := field (by simpa [kinds,same] using dot)
        cases others with
        | nil => simp at named
        | cons name others => exact away (by simpa [kinds] using named)
      rw [near,kinds,same]
      exact ⟨others ++ clause.mark.kind :: tail.map Token.kind,rfl⟩

def Passes (clause : Clause) (tail : List Token) (checker : Checker) : Prop :=
  ∃ state, checker.statementItem = .finished state ∧ Quiet checker state ∧ state.tokens.rest = clause.past tail

-- The clause is left with one report, where so much of it is unread.
def Halts (clause : Clause) (tail unread : List Token) (code : Int) (place : Position) (message : Option String)
    (checker : Checker) : Prop :=
  ∃ state, checker.statementItem = .stopped .reported (state.report code place message) ∧ Quiet checker state ∧
    state.tokens.rest = unread ++ clause.mark :: tail

theorem separator_at_mark (proper : clause.Proper) (stands : state.tokens.rest = clause.mark :: tail) :
    ∃ last, state.separator = .finished last ∧ Quiet state last ∧ last.tokens.rest = clause.past tail := by
  have current := current_of_rest stands
  unfold separator Clause.past
  by_cases semi : clause.mark.kind = .semi
  · rw [if_pos (current.trans semi),if_pos semi]
    exact ⟨state.next,rfl,quiet_next state,by rw [next_of_rest stands]⟩
  · have ends : clause.mark.kind = .endWord := by simpa [semi] using proper.mark
    rw [if_neg (by simp [current,ends]),if_pos (Or.inl (current.trans ends)),if_neg semi]
    exact ⟨state,rfl,Quiet.refl _,stands⟩

theorem separator_inside {token : Token} {rest : List Token} (inner : token.kind ∉ [TokenKind.semi,.endWord,.eof])
    (stands : state.tokens.rest = token :: rest) :
    state.separator = state.failAfter Problem.unexpectedToken.code (some "expected ';' or 'end'") := by
  have current := current_of_rest stands
  simp only [List.mem_cons,List.not_mem_nil,or_false,not_or] at inner
  rw [separator,if_neg (by simp [current,inner]),if_neg (by simp [current,inner])]

theorem places_within {here there : Checker} (within : Within clause tail otherTail here there) :
    (here.tokens.lastPosition = there.tokens.lastPosition ∧ here.tokens.lastPosition ∈ clause.places) ∧
      here.tokens.currentPosition = there.tokens.currentPosition ∧ here.tokens.currentPosition ∈ clause.places := by
  obtain ⟨taken,last,unread,split,first,second,stands,otherStands⟩ := within
  rcases here with ⟨⟨_ | ⟨passed,_⟩,rest⟩,sink,journal⟩
  · cases first
  rcases there with ⟨⟨_ | ⟨otherPassed,_⟩,otherRest⟩,otherSink,otherJournal⟩
  · cases second
  cases Option.some.inj first
  cases Option.some.inj second
  cases stands
  cases otherStands
  refine ⟨⟨rfl,?_⟩,?_⟩
  · simp [TokenStream.lastPosition,Clause.places,Clause.all,split]
  · cases unread with
    | nil => exact ⟨rfl,by simp [TokenStream.currentPosition,Clause.places,Clause.all]⟩
    | cons next unread => exact ⟨rfl,by simp [TokenStream.currentPosition,Clause.places,Clause.all,split]⟩

-- What is found out about a clause in two checks at once: it is passed in both, or told of in both in the same words.
inductive Found (clause : Clause) (tail otherTail : List Token) (checker other : Checker) : Prop where
  | sound (statement : clause.kinds ∈ optional Grammar.statement) (here : Passes clause tail checker)
      (there : Passes clause otherTail other)
  | faulty {taken unread : List Token} {code : Int} {place : Position} {message : Option String}
      (fault : clause.Fault taken unread) (within : place ∈ clause.places) (mismatch : code ∉ closing)
      (here : Halts clause tail unread code place message checker)
      (there : Halts clause otherTail unread code place message other)

theorem mark_apart (proper : clause.Proper) {token : Token} (inside : token ∈ clause.tokens) :
    token.kind ≠ clause.mark.kind := by
  intro same
  have inner := proper.inner token inside
  have mark := proper.mark
  rw [same] at inner
  simp only [List.mem_cons,List.not_mem_nil,or_false,not_or] at inner mark
  rcases mark with semi | ends
  · exact inner.1 semi
  · exact inner.2.1 ends

section
variable {here there : Checker} (proper : clause.Proper) (start : checker.tokens.rest = clause.all ++ tail)
include proper start

theorem found_of_halt (between : Within clause tail otherTail here there) (quiet : Quiet checker here)
    (otherQuiet : Quiet other there) (deviates : Deviates (framed checker clause.mark.kind) here) {code : Int}
    {place : Position} {message : Option String} (mismatch : code ∉ closing) (within : place ∈ clause.places)
    (item : checker.statementItem = .stopped .reported (here.report code place message))
    (otherItem : other.statementItem = .stopped .reported (there.report code place message)) :
    Found clause tail otherTail checker other := by
  obtain ⟨taken,last,unread,split,_,_,stands,otherStands⟩ := between
  have fault := fault_of_deviates proper quiet (split.trans (List.append_cons _ _ _)) start stands deviates
  exact .faulty fault within mismatch ⟨here,item,quiet,stands⟩ ⟨there,otherItem,otherQuiet,otherStands⟩

theorem found_of_read (between : Within clause tail otherTail here there) (quiet : Quiet checker here)
    (otherQuiet : Quiet other there)
    (expects : Expects (framed checker clause.mark.kind) here (one clause.mark.kind))
    (item : checker.statementItem = here.separator) (otherItem : other.statementItem = there.separator) :
    Found clause tail otherTail checker other := by
  obtain ⟨⟨sameLast,within⟩,_⟩ := places_within between
  have ⟨taken,last,unread,split,_,_,stands,otherStands⟩ := between
  cases unread with
  | nil =>
    obtain ⟨state,ended,onward,rests⟩ := separator_at_mark proper stands
    obtain ⟨otherState,otherEnded,otherOnward,otherRests⟩ := separator_at_mark proper otherStands
    exact .sound (phrase_of_expects quiet start stands expects) ⟨state,item.trans ended,quiet.trans onward,rests⟩
      ⟨otherState,otherItem.trans otherEnded,otherQuiet.trans otherOnward,otherRests⟩
  | cons next unread =>
    have inside : next ∈ clause.tokens := by simp [split]
    have away : here.current ∉ [clause.mark.kind] := by
      rw [current_of_rest stands,List.mem_singleton]
      exact mark_apart proper inside
    have refused := separator_inside (proper.inner next inside) stands
    have otherRefused := separator_inside (proper.inner next inside) otherStands
    refine found_of_halt proper start between quiet otherQuiet (expects.deviates (Opens.one _) away) (by decide) within
      (item.trans refused) ?_
    rw [sameLast]
    exact otherItem.trans otherRefused

variable (otherStart : other.tokens.rest = clause.all ++ otherTail)
include otherStart

theorem found_of_subject {token : Token} {rest : List Token} (tokens : clause.tokens = token :: rest)
    (subject : token.kind = .ident ∨ token.kind = .writelnWord) : Found clause tail otherTail checker other := by
  have first : checker.tokens.rest = token :: (rest ++ clause.mark :: tail) := by simp [start,Clause.all,tokens]
  have second : other.tokens.rest = token :: (rest ++ clause.mark :: otherTail) := by simp [otherStart,Clause.all,tokens]
  have within : Within clause tail otherTail checker.next other.next :=
    ⟨[],token,rest,tokens,by rw [next_of_rest first]; rfl,by rw [next_of_rest second]; rfl,
      by rw [next_of_rest first],by rw [next_of_rest second]⟩
  have alike := (straight_subject (List.Subset.refl _)).alike (inStep_within proper.mark) within
  have meets := meets_statement checker proper.mark
  have item : checker.statementItem = checker.statement.andThen separator := rfl
  have otherItem : other.statementItem = other.statement.andThen separator := rfl
  rw [statement_of_subject (by rwa [current_of_rest first])] at meets item
  rw [statement_of_subject (by rwa [current_of_rest second])] at otherItem
  generalize checker.next.selector.andThen action = ended at alike meets item
  generalize other.next.selector.andThen action = otherEnded at alike otherItem
  cases alike with
  | @finished here there quiet otherQuiet between =>
    have quiet := (quiet_next checker).trans quiet
    rcases meets with ⟨_,expects⟩ | told
    · exact found_of_read proper start between quiet ((quiet_next other).trans otherQuiet) expects item otherItem
    · have size := size_of_told told
      rw [quiet.sink] at size
      exact absurd size (Nat.lt_irrefl _)
  | @failAfter here there quiet otherQuiet between code mismatch message =>
    have quiet := (quiet_next checker).trans quiet
    obtain ⟨⟨sameLast,inLast⟩,_⟩ := places_within between
    refine found_of_halt proper start between quiet ((quiet_next other).trans otherQuiet)
      (deviates_of_stopped quiet meets) mismatch inLast item ?_
    rw [sameLast]
    exact otherItem
  | @failHere here there quiet otherQuiet between code mismatch message =>
    have quiet := (quiet_next checker).trans quiet
    obtain ⟨_,sameCurrent,inCurrent⟩ := places_within between
    refine found_of_halt proper start between quiet ((quiet_next other).trans otherQuiet)
      (deviates_of_stopped quiet meets) mismatch inCurrent item ?_
    rw [sameCurrent]
    exact otherItem

omit otherStart in
theorem refused_of_stranger {token : Token} {rest : List Token} (tokens : clause.tokens = token :: rest)
    (stranger : ¬ (token.kind = .ident ∨ token.kind = .writelnWord)) :
    checker.statement = .stopped .reported (checker.report Problem.statementExpected.code token.position none) := by
  have first : checker.tokens.rest = token :: (rest ++ clause.mark :: tail) := by simp [start,Clause.all,tokens]
  have inner := proper.inner token (by simp [tokens])
  simp only [List.mem_cons,List.not_mem_nil,or_false,not_or] at inner
  have place : checker.tokens.currentPosition = token.position := by simp only [TokenStream.currentPosition,first]
  rw [← place]
  exact statement_of_stranger (by simp [current_of_rest first,inner]) (by rwa [current_of_rest first])

theorem found_of_stranger {token : Token} {rest : List Token} (tokens : clause.tokens = token :: rest)
    (stranger : ¬ (token.kind = .ident ∨ token.kind = .writelnWord)) : Found clause tail otherTail checker other := by
  have refused := refused_of_stranger proper start tokens stranger
  have otherRefused := refused_of_stranger proper otherStart tokens stranger
  have stands : checker.tokens.rest = clause.tokens ++ clause.mark :: tail := by simp [start,Clause.all]
  have otherStands : other.tokens.rest = clause.tokens ++ clause.mark :: otherTail := by simp [otherStart,Clause.all]
  have meets := meets_statement checker proper.mark
  rw [refused] at meets
  have fault := fault_of_deviates proper (Quiet.refl _) (List.nil_append _).symm start stands
    (deviates_of_stopped (Quiet.refl _) meets)
  have within : token.position ∈ clause.places := by simp [Clause.places,Clause.all,tokens]
  have mismatch : Problem.statementExpected.code ∉ closing := by decide
  exact .faulty fault within mismatch ⟨checker,by rw [statementItem,refused,Outcome.andThen_stopped],Quiet.refl _,stands⟩
    ⟨other,by rw [statementItem,otherRefused,Outcome.andThen_stopped],Quiet.refl _,otherStands⟩

theorem found_of_empty (empty : clause.tokens = []) : Found clause tail otherTail checker other := by
  have first : checker.tokens.rest = clause.mark :: tail := by simp [start,Clause.all,empty]
  have second : other.tokens.rest = clause.mark :: otherTail := by simp [otherStart,Clause.all,empty]
  have mark := List.mem_pair.mp proper.mark
  obtain ⟨state,ended,quiet,rests⟩ := separator_at_mark proper first
  obtain ⟨otherState,otherEnded,otherQuiet,otherRests⟩ := separator_at_mark proper second
  refine .sound ?_ ⟨state,?_,quiet,rests⟩ ⟨otherState,?_,otherQuiet,otherRests⟩
  · rw [Clause.kinds,empty]
    exact Or.inl rfl
  · rw [statementItem,statement,if_pos (by rwa [current_of_rest first]),Outcome.andThen_finished,ended]
  · rw [statementItem,statement,if_pos (by rwa [current_of_rest second]),Outcome.andThen_finished,otherEnded]

theorem found_of_clause : Found clause tail otherTail checker other := by
  cases tokens : clause.tokens with
  | nil => exact found_of_empty proper start otherStart tokens
  | cons token rest =>
    by_cases subject : token.kind = .ident ∨ token.kind = .writelnWord
    · exact found_of_subject proper start otherStart tokens subject
    · exact found_of_stranger proper start otherStart tokens subject

end

end Checker

end PascalCheck
