import PascalCheck.Proofs.Grammar.Round

namespace PascalCheck

namespace Clause

def Wrong (clause : Clause) : Prop := clause.tokens ≠ [] ∧ clause.kinds ∉ Grammar.statement

variable {clause : Clause}

theorem fielded_of_plain (plain : ∀ token ∈ clause.tokens, token.kind ≠ .dot) : clause.Fielded := by
  intro i _ dot
  obtain ⟨token,member,kind⟩ := List.mem_map.mp (List.mem_of_getElem? dot)
  exact absurd kind (plain token member)

theorem tidy_of_plain (plain : ∀ token ∈ clause.tokens, token.kind ≠ .dot) : clause.Tidy := by
  intro front back stray
  obtain ⟨dot,split,kind⟩ := stray.split
  exact plain dot (by simp [split]) kind

theorem exists_firstStray (untidy : ¬ clause.Tidy) : ∃ front back, clause.FirstStray front back := by
  classical
  have lengths : ∃ length front back, clause.Stray front back ∧ front.length = length := by
    simp only [Tidy,not_forall,not_not] at untidy
    obtain ⟨front,back,stray⟩ := untidy
    exact ⟨front.length,front,back,stray,rfl⟩
  obtain ⟨front,back,stray,shortest⟩ := Nat.find_spec lengths
  refine ⟨front,back,stray,?_⟩
  intro earlier later other
  rw [shortest]
  exact Nat.find_min' lengths ⟨earlier,later,other,rfl⟩

theorem tidy_or_first (clauses : List Clause) :
    (∀ clause ∈ clauses, clause.Tidy) ∨ ∃ before clause after front back, clauses = before ++ clause :: after ∧
      (∀ earlier ∈ before, earlier.Tidy) ∧ clause.FirstStray front back := by
  induction clauses with
  | nil => exact Or.inl (by simp)
  | cons clause clauses more =>
    by_cases tidy : clause.Tidy
    · rcases more with all | ⟨before,first,after,front,back,split,tidyBefore,stray⟩
      · exact Or.inl (List.forall_mem_cons.mpr ⟨tidy,all⟩)
      · refine Or.inr ⟨clause :: before,first,after,front,back,?_,List.forall_mem_cons.mpr ⟨tidy,tidyBefore⟩,stray⟩
        rw [split,List.cons_append]
    · obtain ⟨front,back,stray⟩ := exists_firstStray tidy
      exact Or.inr ⟨[],clause,clauses,front,back,rfl,by simp,stray⟩

end Clause

-- Tokens between a begin and an end, parted by semicolons, with the final dot behind them.
structure Block where
  opening : Position
  front : List (List Token × Position)
  last : List Token
  closing : Position
  dot : Position
deriving DecidableEq, Repr

namespace Block

def parted (block : Block) : List Clause :=
  block.front.map fun
    | (tokens,place) => ⟨tokens,⟨.semi,place⟩⟩

def ending (block : Block) : Clause := ⟨block.last,⟨.endWord,block.closing⟩⟩

def clauses (block : Block) : List Clause := block.parted ++ [block.ending]

def tokens (block : Block) : List Token :=
  ⟨.beginWord,block.opening⟩ :: (block.clauses.flatMap Clause.all ++ [⟨.dot,block.dot⟩])

-- What stands behind a clause that has a program of its own: an end, unless the clause has one.
def behind (block : Block) (clause : Clause) : List Token :=
  if clause.mark.kind = .semi then [⟨.endWord,block.closing⟩,⟨.dot,block.dot⟩] else [⟨.dot,block.dot⟩]

def alone (block : Block) (clause : Clause) : List Token :=
  ⟨.beginWord,block.opening⟩ :: (clause.all ++ block.behind clause)

variable {block : Block} {clause : Clause}

theorem mark_parted (member : clause ∈ block.parted) : clause.mark.kind = .semi := by
  obtain ⟨piece,_,rfl⟩ := List.mem_map.mp member
  rfl

theorem mark_clauses (member : clause ∈ block.clauses) : clause.mark.kind ∈ [TokenKind.semi,.endWord] := by
  rcases List.mem_append.mp member with parted | ending
  · simp [mark_parted parted]
  · rw [List.mem_singleton.mp ending]
    exact List.mem_pair.mpr (Or.inr rfl)

theorem proper_clauses
    (inner : ∀ clause ∈ block.clauses, ∀ token ∈ clause.tokens, token.kind ∉ [TokenKind.semi,.endWord,.eof]) :
    ∀ clause ∈ block.clauses, clause.Proper := by
  intro clause member
  exact ⟨mark_clauses member,inner clause member⟩

theorem dotless_clauses
    (inner : ∀ clause ∈ block.clauses, ∀ token ∈ clause.tokens, token.kind ∉ [TokenKind.semi,.endWord,.dot,.eof]) :
    (∀ clause ∈ block.clauses, clause.Proper) ∧ ∀ clause ∈ block.clauses, clause.Fielded ∧ clause.Tidy := by
  constructor
  · apply proper_clauses
    intro clause member token inside outside
    have wider : [TokenKind.semi,.endWord,.eof] ⊆ [TokenKind.semi,.endWord,.dot,.eof] := by simp
    exact inner clause member token inside (wider outside)
  · intro clause member
    have plain : ∀ token ∈ clause.tokens, token.kind ≠ .dot := by
      intro token inside dot
      exact inner clause member token inside (by simp [dot])
    exact ⟨Clause.fielded_of_plain plain,Clause.tidy_of_plain plain⟩

theorem parted_of_split {before after : List Clause} (split : block.clauses = before ++ clause :: after) :
    ∀ earlier ∈ before, earlier.mark.kind = .semi := by
  have front := congrArg List.dropLast split
  rw [clauses,List.dropLast_concat,List.dropLast_append_of_ne_nil (by simp)] at front
  intro earlier member
  exact mark_parted (front ▸ List.mem_append_left _ member)

theorem past_ending (block : Block) :
    block.ending.past [⟨.dot,block.dot⟩] = [⟨.endWord,block.closing⟩,⟨.dot,block.dot⟩] := rfl

theorem past_behind (member : clause ∈ block.clauses) :
    clause.past (block.behind clause) = [⟨.endWord,block.closing⟩,⟨.dot,block.dot⟩] := by
  unfold Clause.past behind
  rcases List.mem_append.mp member with parted | ending
  · simp [mark_parted parted]
  · rw [List.mem_singleton.mp ending]
    rfl

end Block

namespace Checker
open Grammar

variable {block : Block} {clause : Clause} {checker last : Checker}

theorem program_of_begin (begins : checker.current = .beginWord) :
    checker.program = (checker.next.statements.andThen compoundEnd).andThen finalDot := by
  have noSection : checker.atSection = false := by simp [atSection,begins]
  have declared : checker.heading.andThen sections = .finished checker := by
    rw [heading,if_neg (by simp [begins]),Outcome.andThen_finished,sections,repeatWhile_done noSection]
  rw [program,declared,Outcome.andThen_finished,body,if_pos begins,compound]

theorem ended_of_begin {opening : Position} {rest : List Token} 
    (statements : (ofTokens (⟨.beginWord,opening⟩ :: rest) {}).next.statements = .finished last) :
    ended (⟨.beginWord,opening⟩ :: rest) {} = (last.compoundEnd.andThen finalDot).after := by
  rw [ended,program_of_begin rfl,statements,Outcome.andThen_finished]

theorem ended_at_end {closing dot : Position} (stands : last.tokens.rest = [⟨.endWord,closing⟩,⟨.dot,dot⟩]) :
    (last.compoundEnd.andThen finalDot).after.tokens.atEnd = true ∧
      (last.compoundEnd.andThen finalDot).after.notices = last.notices := by
  have rests : last.next.tokens.rest = [⟨.dot,dot⟩] := by rw [next_of_rest stands]
  rw [compoundEnd,if_pos (current_of_rest stands),Outcome.andThen_finished,finalDot,if_pos (current_of_rest rests),
    Outcome.after_finished]
  constructor
  · rw [next_of_rest rests]
    rfl
  · rfl

-- A dot in the place of the end is taken for the final one.
theorem ended_at_dot {dot : Token} {rest : List Token} (stands : last.tokens.rest = dot :: rest) (kind : dot.kind = .dot) :
    (last.compoundEnd.andThen finalDot).after.tokens.rest = rest ∧
      ∃ place, (last.compoundEnd.andThen finalDot).after.notices =
        last.notices ++ [⟨Problem.compoundEnd.code,place,Problem.compoundEnd.message⟩] := by
  have current := current_of_rest stands
  have rests : (last.reportAfter Problem.compoundEnd.code none).tokens.rest = dot :: rest := stands
  rw [compoundEnd,if_neg (by simp [current,kind]),Outcome.andThen_finished,finalDot,
    if_pos ((current_of_rest rests).trans kind),Outcome.after_finished]
  constructor
  · rw [next_of_rest rests]
  · exact ⟨_,notices_report _ _ _ _⟩

section
variable (proper : ∀ clause ∈ block.clauses, clause.Proper) (fielded : ∀ clause ∈ block.clauses, clause.Fielded)
include proper fielded

theorem ended_of_tidy (tidy : ∀ clause ∈ block.clauses, clause.Tidy) :
    (ended block.tokens {}).tokens.atEnd = true ∧
      (ended block.tokens {}).notices = block.clauses.flatMap toldAlone := by
  have start : (ofTokens block.tokens {}).next.tokens.rest =
      block.parted.flatMap Clause.all ++ (block.ending.all ++ [⟨.dot,block.dot⟩]) := by
    rw [next_of_rest (rfl : (ofTokens block.tokens {}).tokens.rest = _)]
    simp [Block.clauses]
  obtain ⟨properParted,properEnding⟩ := List.forall_mem_append.mp proper
  obtain ⟨fieldedParted,fieldedEnding⟩ := List.forall_mem_append.mp fielded
  obtain ⟨tidyParted,tidyEnding⟩ := List.forall_mem_append.mp tidy
  rw [List.forall_mem_singleton] at properEnding fieldedEnding tidyEnding
  obtain ⟨between,before,restsBetween,noticesBetween⟩ := statements_of_clauses properParted fieldedParted tidyParted
    (fun _ member => Block.mark_parted member) _ start
  obtain ⟨_,last,same,rests,notices⟩ := statements_of_tidy properEnding fieldedEnding tidyEnding restsBetween
  rw [block.past_ending] at rests
  have done : last.statements = .finished last := statements_done (by simp [current_of_rest rests])
  obtain ⟨atEnd,told⟩ := ended_at_end rests
  rw [Block.tokens,ended_of_begin (before.trans (same.trans done))]
  refine ⟨atEnd,?_⟩
  rw [told,notices,noticesBetween,Block.clauses,List.flatMap_append,List.flatMap_singleton]
  rfl

theorem ended_of_alone (tidy : clause.Tidy) (member : clause ∈ block.clauses) :
    (ended (block.alone clause) {}).notices = toldAlone clause := by
  have start : (ofTokens (block.alone clause) {}).next.tokens.rest = clause.all ++ block.behind clause := rfl
  obtain ⟨_,last,same,rests,notices⟩ := statements_of_tidy (proper clause member) (fielded clause member) tidy start
  rw [block.past_behind member] at rests
  have done : last.statements = .finished last := statements_done (by simp [current_of_rest rests])
  rw [Block.alone,ended_of_begin (same.trans done),(ended_at_end rests).2,notices]
  rfl

-- The check is over at the first stray dot, however much is left of the block.
theorem ended_of_stray {before after : List Clause} {front back : List Token}
    (split : block.clauses = before ++ clause :: after) (tidy : ∀ earlier ∈ before, earlier.Tidy)
    (stray : clause.FirstStray front back) :
    (ended block.tokens {}).tokens.rest = back ++ clause.mark :: (after.flatMap Clause.all ++ [⟨.dot,block.dot⟩]) ∧
      ∃ added place, (front ≠ [] → ∃ notice ∈ added, notice.place ∈ clause.places) ∧
        (ended block.tokens {}).notices =
          (before.flatMap toldAlone ++ added) ++ [⟨Problem.compoundEnd.code,place,Problem.compoundEnd.message⟩] := by
  have start : (ofTokens block.tokens {}).next.tokens.rest =
      before.flatMap Clause.all ++ (clause.all ++ (after.flatMap Clause.all ++ [⟨.dot,block.dot⟩])) := by
    rw [next_of_rest (rfl : (ofTokens block.tokens {}).tokens.rest = _)]
    simp [split]
  rw [split] at proper fielded
  obtain ⟨properBefore,properFrom⟩ := List.forall_mem_append.mp proper
  obtain ⟨fieldedBefore,fieldedFrom⟩ := List.forall_mem_append.mp fielded
  obtain ⟨between,same,restsBetween,noticesBetween⟩ := statements_of_clauses properBefore fieldedBefore tidy
    (Block.parted_of_split split) _ start
  obtain ⟨last,dot,added,done,kind,rests,notices,near⟩ := statements_of_stray (properFrom clause List.mem_cons_self)
    (fieldedFrom clause List.mem_cons_self) stray restsBetween
  obtain ⟨restsLast,place,told⟩ := ended_at_dot rests kind
  rw [Block.tokens,ended_of_begin (same.trans done)]
  refine ⟨restsLast,added,place,near,?_⟩
  rw [told,notices,noticesBetween]
  rfl

end

-- Each clause is told of as in a program of its own, and those programs account for all that is told.
theorem clauses_told_alone (block : Block)
    (inner : ∀ clause ∈ block.clauses, ∀ token ∈ clause.tokens, token.kind ∉ [TokenKind.semi,.endWord,.dot,.eof]) :
    (ofTokens block.tokens {}).program = .finished (ended block.tokens {}) ∧
      (ended block.tokens {}).tokens.atEnd = true ∧
      (∀ notice ∈ (ended block.tokens {}).notices, notice.code ∉ closing) ∧
      (ended block.tokens {}).notices = block.clauses.flatMap (fun clause => (ended (block.alone clause) {}).notices) ∧
      ∀ clause ∈ block.clauses, (ended (block.alone clause) {}).notices.length ≤ 1 ∧
        ((ended (block.alone clause) {}).notices = [] ↔ clause.tokens = [] ∨ clause.kinds ∈ Grammar.statement) ∧
        ∀ notice ∈ (ended (block.alone clause) {}).notices, notice.place ∈ clause.places := by
  obtain ⟨proper,regular⟩ := Block.dotless_clauses inner
  have fielded : ∀ clause ∈ block.clauses, clause.Fielded := fun clause member => (regular clause member).1
  have tidy : ∀ clause ∈ block.clauses, clause.Tidy := fun clause member => (regular clause member).2
  have verdict : ∀ clause ∈ block.clauses, Verdict clause (toldAlone clause) := fun clause member =>
    verdict_alone (proper clause member) (fielded clause member) (tidy clause member)
  have alone : ∀ clause ∈ block.clauses, (ended (block.alone clause) {}).notices = toldAlone clause :=
    fun clause member => ended_of_alone proper fielded (tidy clause member) member
  obtain ⟨atEnd,notices⟩ := ended_of_tidy proper fielded tidy
  refine ⟨finishes_program _,atEnd,?_,?_,?_⟩
  · intro notice told
    rw [notices] at told
    obtain ⟨clause,member,told⟩ := List.mem_flatMap.mp told
    exact ((verdict clause member).mismatch notice told).1
  · rw [notices]
    exact List.flatMap_congr fun clause member => (alone clause member).symm
  · intro clause member
    rw [alone clause member]
    obtain ⟨once,clean,mismatch⟩ := verdict clause member
    refine ⟨once,?_,fun notice told => (mismatch notice told).2⟩
    rw [clean,Clause.mem_optional,Clause.kinds,List.map_eq_nil_iff]

theorem clauses_told_alone_of_two :
    let block : Block := ⟨⟨0,0⟩,[([⟨.ident,⟨0,6⟩⟩,⟨.assign,⟨0,8⟩⟩,⟨.assign,⟨0,11⟩⟩],⟨0,13⟩)],
      [⟨.ident,⟨0,15⟩⟩,⟨.number,⟨0,17⟩⟩],⟨0,19⟩,⟨0,22⟩⟩
    (∀ clause ∈ block.clauses, ∀ token ∈ clause.tokens, token.kind ∉ [TokenKind.semi,.endWord,.dot,.eof]) ∧
      (ended block.tokens {}).tokens.atEnd = true ∧
      (ended block.tokens {}).notices = block.clauses.flatMap (fun clause => (ended (block.alone clause) {}).notices) ∧
      (ended block.tokens {}).notices =
        [⟨409,⟨0,11⟩,"identifier or number expected"⟩,⟨404,⟨0,15⟩,"expected ';' or 'end'"⟩] := by
  intro block
  have inner : ∀ clause ∈ block.clauses, ∀ token ∈ clause.tokens, token.kind ∉ [TokenKind.semi,.endWord,.dot,.eof] := by
    decide
  have told : (ended block.tokens {}).notices =
      [⟨409,⟨0,11⟩,"identifier or number expected"⟩,⟨404,⟨0,15⟩,"expected ';' or 'end'"⟩] := by
    cbv
  obtain ⟨_,atEnd,_,parts,_⟩ := clauses_told_alone block inner
  exact ⟨inner,atEnd,parts,told⟩

def Tells (checker : Checker) (clause : Clause) : Prop := ∃ notice ∈ checker.notices, notice.place ∈ clause.places

structure Covers (checker : Checker) (block : Block) : Prop where
  tidy : ∀ clause ∈ block.clauses, clause.Tidy
  atEnd : checker.tokens.atEnd = true
  told : ∀ clause ∈ block.clauses, clause.Wrong → checker.Tells clause

-- The check has come to an end behind a stray dot, before which no other stands.
structure Breaks (checker : Checker) (block : Block) (before : List Clause) (clause : Clause) (after : List Clause)
    (front back : List Token) : Prop where
  split : block.clauses = before ++ clause :: after
  tidy : ∀ earlier ∈ before, earlier.Tidy
  stray : clause.FirstStray front back
  told : ∀ earlier ∈ before, earlier.Wrong → checker.Tells earlier
  near : front ≠ [] → checker.Tells clause
  rests : checker.tokens.rest = back ++ clause.mark :: (after.flatMap Clause.all ++ [⟨.dot,block.dot⟩])
  closed : ∃ notice, checker.notices.getLast? = some notice ∧ notice.code = Problem.compoundEnd.code

theorem tells_of_wrong {told : List Notice} (verdict : Verdict clause told) (wrong : clause.Wrong)
    (kept : told ⊆ checker.notices) : checker.Tells clause := by
  have some : told ≠ [] := by
    intro none
    rcases Clause.mem_optional.mp (verdict.clean.mp none) with empty | statement
    · exact wrong.1 (List.map_eq_nil_iff.mp empty)
    · exact wrong.2 statement
  obtain ⟨notice,member⟩ := List.exists_mem_of_ne_nil _ some
  exact ⟨notice,kept member,(verdict.mismatch notice member).2⟩

theorem wrong_clauses_told (block : Block)
    (inner : ∀ clause ∈ block.clauses, ∀ token ∈ clause.tokens, token.kind ∉ [TokenKind.semi,.endWord,.eof])
    (fielded : ∀ clause ∈ block.clauses, clause.Fielded) :
    (ofTokens block.tokens {}).program = .finished (ended block.tokens {}) ∧
      ((ended block.tokens {}).Covers block ∨
        ∃ before clause after front back, (ended block.tokens {}).Breaks block before clause after front back) := by
  have proper := Block.proper_clauses inner
  refine ⟨finishes_program _,?_⟩
  rcases Clause.tidy_or_first block.clauses with tidy | ⟨before,clause,after,front,back,split,tidy,stray⟩
  · obtain ⟨atEnd,notices⟩ := ended_of_tidy proper fielded tidy
    refine Or.inl ⟨tidy,atEnd,?_⟩
    intro clause member wrong
    apply tells_of_wrong (verdict_alone (proper clause member) (fielded clause member) (tidy clause member)) wrong
    rw [notices]
    exact fun notice told => List.mem_flatMap.mpr ⟨clause,member,told⟩
  · obtain ⟨rests,added,place,near,notices⟩ := ended_of_stray proper fielded split tidy stray
    refine Or.inr ⟨before,clause,after,front,back,split,tidy,stray,?_,?_,rests,?_⟩
    · intro earlier member wrong
      have held : earlier ∈ block.clauses := split ▸ List.mem_append_left _ member
      apply tells_of_wrong (verdict_alone (proper earlier held) (fielded earlier held) (tidy earlier member)) wrong
      rw [notices]
      exact fun notice told => List.mem_append_left _ (List.mem_append_left _ (List.mem_flatMap.mpr ⟨earlier,member,told⟩))
    · intro some
      obtain ⟨notice,member,within⟩ := near some
      refine ⟨notice,?_,within⟩
      rw [notices]
      exact List.mem_append_left _ (List.mem_append_right _ member)
    · rw [notices,List.getLast?_concat]
      exact ⟨_,rfl,rfl⟩

theorem wrong_clauses_told_with_field :
    let block : Block := ⟨⟨0,0⟩,[([⟨.ident,⟨0,6⟩⟩,⟨.dot,⟨0,7⟩⟩,⟨.ident,⟨0,8⟩⟩,⟨.assign,⟨0,10⟩⟩,⟨.assign,⟨0,13⟩⟩],⟨0,15⟩)],
      [⟨.ident,⟨0,17⟩⟩,⟨.number,⟨0,19⟩⟩],⟨0,21⟩,⟨0,24⟩⟩
    (∀ clause ∈ block.clauses, ∀ token ∈ clause.tokens, token.kind ∉ [TokenKind.semi,.endWord,.eof]) ∧
      (∀ clause ∈ block.clauses, clause.Fielded) ∧ (ended block.tokens {}).Covers block := by
  intro block
  have inner : ∀ clause ∈ block.clauses, ∀ token ∈ clause.tokens, token.kind ∉ [TokenKind.semi,.endWord,.eof] := by
    decide
  have fielded : ∀ clause ∈ block.clauses, clause.Fielded := by
    decide
  have atEnd : (ended block.tokens {}).tokens.atEnd = true := by
    cbv
  refine ⟨inner,fielded,?_⟩
  rcases (wrong_clauses_told block inner fielded).2 with covers | ⟨before,clause,after,front,back,breaks⟩
  · exact covers
  · have rests := breaks.rests
    rw [List.isEmpty_iff.mp atEnd] at rests
    simp at rests

-- A field behind a mismatch ends the check, and what is wrong in the next clause stays hidden.
theorem wrong_clause_hidden :
    let block : Block := ⟨⟨0,0⟩,[([⟨.ident,⟨0,6⟩⟩,⟨.assign,⟨0,8⟩⟩,⟨.assign,⟨0,11⟩⟩,⟨.ident,⟨0,14⟩⟩,⟨.dot,⟨0,15⟩⟩,
      ⟨.ident,⟨0,16⟩⟩],⟨0,17⟩)],[⟨.ident,⟨0,19⟩⟩,⟨.number,⟨0,21⟩⟩],⟨0,23⟩,⟨0,26⟩⟩
    (∀ clause ∈ block.clauses, ∀ token ∈ clause.tokens, token.kind ∉ [TokenKind.semi,.endWord,.eof]) ∧
      (∀ clause ∈ block.clauses, clause.Fielded) ∧ (ended block.tokens {}).tokens.atEnd = false ∧
      ∃ clause ∈ block.clauses, clause.Wrong ∧ ¬ (ended block.tokens {}).Tells clause := by
  intro block
  have told : (ended block.tokens {}).notices = [⟨409,⟨0,11⟩,"identifier or number expected"⟩,
      ⟨408,⟨0,14⟩,"'end' of compound statement expected"⟩] := by
    cbv
  have unread : (ended block.tokens {}).tokens.atEnd = false := by
    cbv
  have alone : toldAlone block.ending = [⟨404,⟨0,19⟩,"expected ';' or 'end'"⟩] := by
    cbv
  have plain : ∀ token ∈ block.ending.tokens, token.kind ≠ .dot := by
    decide
  have verdict : Verdict block.ending (toldAlone block.ending) :=
    verdict_alone ⟨by decide,by decide⟩ (Clause.fielded_of_plain plain) (Clause.tidy_of_plain plain)
  refine ⟨by decide,by decide,unread,block.ending,by decide,⟨by decide,?_⟩,?_⟩
  · intro statement
    have clean := verdict.clean.mpr (Or.inr statement)
    simp [alone] at clean
  · rintro ⟨notice,member,within⟩
    rw [told] at member
    rcases List.mem_pair.mp member with rfl | rfl <;> exact absurd within (by decide)

end Checker

end PascalCheck
