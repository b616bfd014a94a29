import PascalCheck.Proofs.Grammar.Clause

namespace PascalCheck
open scoped Computability

structure Notice where
  code : Int
  place : Position
  message : String
deriving DecidableEq, Repr

def Diagnostic.notice (entry : Diagnostic) : Notice := ⟨entry.code,entry.place,entry.message⟩

namespace Clause

def Fielded (clause : Clause) : Prop :=
  ∀ i < clause.kinds.length, clause.kinds[i]? = some .dot → clause.kinds[i + 1]? = some .ident

instance (clause : Clause) : Decidable clause.Fielded :=
  inferInstanceAs (Decidable (∀ i < clause.kinds.length, clause.kinds[i]? = some .dot → clause.kinds[i + 1]? = some .ident))

-- A dot that belongs to no statement: with it, the tokens of the clause begin none.
structure Stray (clause : Clause) (front back : List Token) : Prop where
  split : ∃ dot, clause.tokens = front ++ dot :: back ∧ dot.kind = .dot
  leaves : ∀ phrase ∈ Grammar.statement, ¬ front.map Token.kind ++ [.dot] <+: phrase

variable {clause : Clause} {front back taken unread between : List Token}

structure FirstStray (clause : Clause) (front back : List Token) : Prop extends Stray clause front back where
  first : ∀ earlier later, clause.Stray earlier later → front.length ≤ earlier.length

def Tidy (clause : Clause) : Prop := ∀ front back, ¬ clause.Stray front back

theorem mem_optional {phrase : List TokenKind} :
    phrase ∈ Grammar.optional Grammar.statement ↔ phrase = [] ∨ phrase ∈ Grammar.statement := Iff.rfl

theorem Stray.longer (stray : clause.Stray front back) {phrase : List TokenKind}
    (held : phrase ∈ Grammar.optional Grammar.statement) : ¬ front.map Token.kind ++ [.dot] <+: phrase := by
  rcases mem_optional.mp held with rfl | held
  · intro begins
    simpa using List.prefix_nil.mp begins
  · exact stray.leaves phrase held

theorem stray_of_leading {dot : Token} (tokens : clause.tokens = dot :: back) (kind : dot.kind = .dot) :
    clause.Stray [] back := by
  refine ⟨⟨dot,tokens,kind⟩,?_⟩
  rintro phrase held ⟨rest,same⟩
  obtain ⟨first,member,others,whole⟩ := Grammar.opens_statement.opening phrase held
  rw [← same] at whole
  cases (List.cons.inj whole).1
  simp at member

def opening (clause : Clause) : TokenKind := clause.kinds.headD clause.mark.kind

theorem stray_of_opening (proper : clause.Proper) (dot : clause.opening = .dot) : ∃ back, clause.Stray [] back := by
  cases tokens : clause.tokens with
  | nil =>
    have mark : clause.mark.kind = .dot := by simpa [opening,kinds,tokens] using dot
    have ends := proper.mark
    simp [mark] at ends
  | cons token rest =>
    have first : token.kind = .dot := by simpa [opening,kinds,tokens] using dot
    exact ⟨rest,stray_of_leading tokens first⟩

theorem empty_of_opening (proper : clause.Proper) (plain : clause.opening ≠ .dot)
    (outside : clause.opening ∈ [TokenKind.endWord,.dot,.eof]) : clause.tokens = [] ∧ clause.mark.kind = .endWord := by
  cases tokens : clause.tokens with
  | nil =>
    have mark : clause.opening = clause.mark.kind := by simp [opening,kinds,tokens]
    rw [mark] at outside
    refine ⟨rfl,?_⟩
    rcases List.mem_pair.mp proper.mark with semi | ends
    · simp [semi] at outside
    · exact ends
  | cons token rest =>
    have first : clause.opening = token.kind := by simp [opening,kinds,tokens]
    have inner := proper.inner token (by simp [tokens])
    rw [first] at outside plain
    simp only [List.mem_cons,List.not_mem_nil,or_false,not_or] at inner outside
    simp [inner,plain] at outside

theorem Fault.field (fault : clause.Fault taken unread) (fielded : clause.Fielded)
    (dot : (unread.map Token.kind)[0]? = some .dot) : (unread.map Token.kind)[1]? = some .ident := by
  have kinds : clause.kinds = taken.map Token.kind ++ unread.map Token.kind := by
    rw [Clause.kinds,fault.split,List.map_append]
  have seen : ∀ distance, clause.kinds[taken.length + distance]? = (unread.map Token.kind)[distance]? := by
    intro distance
    rw [kinds,List.getElem?_append_right (by simp),List.length_map,Nat.add_sub_cancel_left]
  have here : clause.kinds[taken.length]? = some .dot := (seen 0).trans dot
  rw [← seen 1]
  exact fielded _ (List.getElem?_eq_some_iff.mp here).1 here

-- Every dot behind a fault is stray.
theorem Fault.stray (fault : clause.Fault taken unread) (fielded : clause.Fielded) {dot : Token}
    (split : unread = between ++ dot :: back) (kind : dot.kind = .dot) : clause.Stray (taken ++ between) back := by
  refine ⟨⟨dot,by rw [fault.split,split,List.append_assoc],kind⟩,?_⟩
  intro phrase held begins
  have field := fault.field fielded
  rw [List.map_append,List.append_assoc] at begins
  cases between with
  | nil =>
    refine fault.refused .dot (by simp [split,kind]) ?_ phrase held begins
    intro _
    exact field (by simp [split,kind])
  | cons next between =>
    refine fault.refused next.kind (by simp [split]) ?_ phrase held (List.IsPrefix.trans ?_ begins)
    · intro dotted
      exact field (by simp [split,dotted])
    · exact ⟨between.map Token.kind ++ [.dot],by simp⟩

theorem Fault.unread_of_stray (fault : clause.Fault taken unread) (fielded : clause.Fielded) 
    (stray : clause.FirstStray front back) :
    ∃ between dot, unread = between ++ dot :: back ∧ dot.kind = .dot ∧ ∀ token ∈ between, token.kind ≠ .dot := by
  obtain ⟨dot,split,kind⟩ := stray.split
  have behind : ∃ between, front = taken ++ between ∧ unread = between ++ dot :: back := by
    rcases List.append_eq_append_iff.mp (fault.split.symm.trans split) with ⟨between,sameFront,sameUnread⟩ | ⟨surplus,sameTaken,sameBack⟩
    · exact ⟨between,sameFront,sameUnread⟩
    · cases surplus with
      | nil => exact ⟨[],by simpa using sameTaken.symm,by simpa using sameBack.symm⟩
      | cons next surplus =>
        cases (List.cons.inj sameBack).1
        obtain ⟨phrase,held,begins⟩ := fault.viable
        refine absurd (List.IsPrefix.trans ⟨surplus.map Token.kind,?_⟩ begins) (stray.toStray.longer held)
        simp [sameTaken,kind]
  obtain ⟨between,sameFront,sameUnread⟩ := behind
  refine ⟨between,dot,sameUnread,kind,?_⟩
  intro token member dotted
  obtain ⟨early,late,same⟩ := List.append_of_mem member
  have nearer := stray.first _ _ (fault.stray fielded (sameUnread.trans (by rw [same,List.append_assoc,List.cons_append])) dotted)
  simp only [sameFront,same,List.length_append,List.length_cons] at nearer
  omega

end Clause

namespace Checker
open Grammar

def notices (checker : Checker) : List Notice := checker.sink.toList.map Diagnostic.notice

variable {clause : Clause} {checker other state : Checker} {tail otherTail front back : List Token}

theorem notices_report (code : Int) (place : Position) (message : Option String) (checker : Checker) :
    (checker.report code place message).notices =
      checker.notices ++ [⟨code,place,message.getD (Problem.messageOf code)⟩] := by
  simp [notices,report,Diagnostic.notice,Sink.entry,Diagnostic.place]

theorem notices_of_quiet (quiet : Quiet checker state) : state.notices = checker.notices := by
  rw [notices,quiet.sink,notices]

theorem synchronize_at {skipped rest : List Token} {stop : Token} (stands : state.tokens.rest = skipped ++ stop :: rest)
    (passed : ∀ token ∈ skipped, isStop token.kind = false) (stops : isStop stop.kind = true) :
    (state.synchronize isStop).notices = state.notices ∧
      (state.synchronize isStop).tokens.rest = if stop.kind = .semi then rest else stop :: rest := by
  have rests : (state.tokens.skipTo isStop).rest = stop :: rest := by
    simp only [TokenStream.skipTo,stands]
    rw [List.dropWhile_append_of_pos (by simpa using passed),List.dropWhile_cons_of_neg (by simp [stops])]
  constructor
  · rw [notices,sink_synchronize,notices]
  · unfold synchronize
    have current : ∀ journal, ({ state with tokens := state.tokens.skipTo isStop, journal } : Checker).current = stop.kind :=
      fun _ => current_of_rest rests
    dsimp only
    rw [current]
    by_cases semi : stop.kind = .semi
    · rw [if_pos semi,if_pos semi,next_of_rest rests]
    · rw [if_neg semi,if_neg semi]
      exact rests

-- At most one mismatch, at a token of the clause or at its mark, and none just in a statement or an empty clause.
structure Verdict (clause : Clause) (told : List Notice) : Prop where
  once : told.length ≤ 1
  clean : told = [] ↔ clause.kinds ∈ optional Grammar.statement
  mismatch : ∀ notice ∈ told, notice.code ∉ closing ∧ notice.place ∈ clause.places

structure Takes (clause : Clause) (told : List Notice) (tail : List Token) (checker last : Checker) : Prop where
  round : recover statementItem checker = .finished last
  rests : last.tokens.rest = clause.past tail
  notices : last.notices = checker.notices ++ told

theorem takes_of_passes (passes : Passes clause tail checker) : ∃ last, Takes clause [] tail checker last := by
  obtain ⟨last,item,quiet,rests⟩ := passes
  refine ⟨last,?_,rests,?_⟩
  · rw [recover,item]
  · rw [notices_of_quiet quiet,List.append_nil]

theorem round_of_halts {unread skipped rest : List Token} {code : Int} {place : Position} {message : Option String}
    {stop : Token} (halts : Halts clause tail unread code place message checker)
    (split : unread ++ clause.mark :: tail = skipped ++ stop :: rest)
    (inner : ∀ token ∈ skipped, isStop token.kind = false) (stops : isStop stop.kind = true) :
    ∃ last, recover statementItem checker = .finished last ∧
      last.tokens.rest = (if stop.kind = .semi then rest else stop :: rest) ∧
      last.notices = checker.notices ++ [⟨code,place,message.getD (Problem.messageOf code)⟩] := by
  obtain ⟨state,item,quiet,rests⟩ := halts
  have stands : (state.report code place message).tokens.rest = skipped ++ stop :: rest := rests.trans split
  obtain ⟨same,onward⟩ := synchronize_at stands inner stops
  refine ⟨(state.report code place message).synchronize isStop,?_,onward,?_⟩
  · rw [recover,item]
  · rw [same,notices_report,notices_of_quiet quiet]

theorem takes_of_halts (proper : clause.Proper) {unread : List Token} {code : Int} {place : Position}
    {message : Option String} (inner : ∀ token ∈ unread, isStop token.kind = false)
    (halts : Halts clause tail unread code place message checker) :
    ∃ last, Takes clause [⟨code,place,message.getD (Problem.messageOf code)⟩] tail checker last := by
  have mark : isStop clause.mark.kind = true := by
    rcases List.mem_pair.mp proper.mark with semi | ends
    · rw [semi]; rfl
    · rw [ends]; rfl
  obtain ⟨last,round,rests,notices⟩ := round_of_halts halts rfl inner mark
  exact ⟨last,round,rests,notices⟩

theorem no_stop_inside (proper : clause.Proper) {token : Token} (inside : token ∈ clause.tokens)
    (plain : token.kind ≠ .dot) : isStop token.kind = false := by
  have inner := proper.inner token inside
  simp only [List.mem_cons,List.not_mem_nil,or_false,not_or] at inner
  simp [isStop,inner,plain]

theorem no_stop_unread (proper : clause.Proper) (fielded : clause.Fielded) (tidy : clause.Tidy) {taken unread : List Token}
    (fault : clause.Fault taken unread) : ∀ token ∈ unread, isStop token.kind = false := by
  intro token member
  apply no_stop_inside proper (fault.split ▸ List.mem_append_right _ member)
  intro dot
  obtain ⟨between,back,split⟩ := List.append_of_mem member
  exact tidy _ _ (fault.stray fielded split dot)

-- A round comes to the same verdict wherever the clause stands.
theorem verdict_of_round (proper : clause.Proper) (fielded : clause.Fielded) (tidy : clause.Tidy)
    (start : checker.tokens.rest = clause.all ++ tail) (otherStart : other.tokens.rest = clause.all ++ otherTail) :
    ∃ told, Verdict clause told ∧ (∃ last, Takes clause told tail checker last) ∧
      ∃ last, Takes clause told otherTail other last := by
  cases found_of_clause proper start otherStart with
  | sound statement here there =>
    exact ⟨[],⟨Nat.zero_le _,iff_of_true rfl statement,by simp⟩,takes_of_passes here,takes_of_passes there⟩
  | @faulty taken unread code place message fault within mismatch here there =>
    have inner := no_stop_unread proper fielded tidy fault
    refine ⟨[⟨code,place,message.getD (Problem.messageOf code)⟩],⟨Nat.le_refl _,iff_of_false (by simp) fault.wrong,?_⟩,
      takes_of_halts proper inner here,takes_of_halts proper inner there⟩
    intro notice member
    rw [List.mem_singleton.mp member]
    exact ⟨mismatch,within⟩

theorem statements_done (outside : checker.current ∈ [TokenKind.endWord,.dot,.eof]) :
    checker.statements = .finished checker := by
  apply repeatWhile_done
  rcases List.mem_cons.mp outside with same | rest
  · simp [inCompound,same]
  · rcases List.mem_pair.mp rest with same | same <;> simp [inCompound,same]

theorem statements_round (inside : checker.current ∉ [TokenKind.endWord,.dot,.eof]) :
    checker.statements = (recover statementItem checker).andThen statements := by
  apply repeatWhile_round
  simpa [inCompound,and_assoc] using inside

theorem current_of_clause (start : checker.tokens.rest = clause.all ++ tail) : checker.current = clause.opening := by
  cases tokens : clause.tokens with
  | nil =>
    have first : checker.tokens.rest = clause.mark :: tail := by simp [start,Clause.all,tokens]
    rw [current_of_rest first,Clause.opening,Clause.kinds,tokens]
    rfl
  | cons token rest =>
    have first : checker.tokens.rest = token :: (rest ++ clause.mark :: tail) := by simp [start,Clause.all,tokens]
    rw [current_of_rest first,Clause.opening,Clause.kinds,tokens]
    rfl

def toldAlone (clause : Clause) : List Notice := (ofTokens clause.all {}).statements.after.notices

theorem toldAlone_of_takes (proper : clause.Proper) {told : List Notice} {last : Checker}
    (inside : clause.opening ∉ [TokenKind.endWord,.dot,.eof])
    (takes : Takes clause told [] (ofTokens clause.all {}) last) : toldAlone clause = told := by
  have start : (ofTokens clause.all {}).tokens.rest = clause.all ++ [] := (List.append_nil _).symm
  have outside : last.current ∈ [TokenKind.endWord,.dot,.eof] := by
    rw [Checker.current,TokenStream.current,takes.rests,Clause.past]
    rcases List.mem_pair.mp proper.mark with semi | ends
    · simp [semi]
    · simp [ends]
  rw [toldAlone,statements_round (current_of_clause start ▸ inside),takes.round,Outcome.andThen_finished,
    statements_done outside,Outcome.after_finished,takes.notices]
  rfl

-- The rounds go over a clause without a stray dot, and tell of it what they tell of it by itself.
theorem statements_of_tidy (proper : clause.Proper) (fielded : clause.Fielded) (tidy : clause.Tidy)
    (start : checker.tokens.rest = clause.all ++ tail) :
    Verdict clause (toldAlone clause) ∧ ∃ last : Checker, checker.statements = last.statements ∧
      last.tokens.rest = clause.past tail ∧ last.notices = checker.notices ++ toldAlone clause := by
  have alone : (ofTokens clause.all {}).tokens.rest = clause.all ++ [] := (List.append_nil _).symm
  have current := current_of_clause start
  by_cases outside : clause.opening ∈ [TokenKind.endWord,.dot,.eof]
  · have plain : clause.opening ≠ .dot := fun dot => (clause.stray_of_opening proper dot).elim (tidy [])
    obtain ⟨empty,ends⟩ := clause.empty_of_opening proper plain outside
    have silent : toldAlone clause = [] := by
      rw [toldAlone,statements_done (current_of_clause alone ▸ outside)]
      rfl
    rw [silent,List.append_nil]
    refine ⟨⟨Nat.zero_le _,iff_of_true rfl (Or.inl ?_),by simp⟩,checker,rfl,?_,rfl⟩
    · rw [Clause.kinds,empty]
      rfl
    · simp [start,Clause.past,Clause.all,empty,ends]
  · obtain ⟨told,verdict,⟨last,takes⟩,ended,takesAlone⟩ := verdict_of_round proper fielded tidy start alone
    rw [toldAlone_of_takes proper outside takesAlone]
    refine ⟨verdict,last,?_,takes.rests,takes.notices⟩
    rw [statements_round (current ▸ outside),takes.round,Outcome.andThen_finished]

theorem verdict_alone (proper : clause.Proper) (fielded : clause.Fielded) (tidy : clause.Tidy) :
    Verdict clause (toldAlone clause) := by
  have start : (ofTokens clause.all {}).tokens.rest = clause.all ++ [] := (List.append_nil _).symm
  exact (statements_of_tidy proper fielded tidy start).1

-- At the first stray dot the rounds are done. What goes before it in the clause has been told of.
theorem statements_of_stray (proper : clause.Proper) (fielded : clause.Fielded) (stray : clause.FirstStray front back)
    (start : checker.tokens.rest = clause.all ++ tail) :
    ∃ last dot added, checker.statements = .finished last ∧ dot.kind = .dot ∧
      last.tokens.rest = dot :: (back ++ clause.mark :: tail) ∧ last.notices = checker.notices ++ added ∧
      (front ≠ [] → ∃ notice ∈ added, notice.place ∈ clause.places) := by
  -- A dot that stands first keeps the rounds from beginning.
  by_cases leading : clause.opening = .dot
  · obtain ⟨later,opens⟩ := clause.stray_of_opening proper leading
    have empty : front = [] := List.length_eq_zero_iff.mp (Nat.le_zero.mp (stray.first _ _ opens))
    obtain ⟨dot,split,kind⟩ := stray.split
    have first : checker.tokens.rest = dot :: (back ++ clause.mark :: tail) := by simp [start,Clause.all,split,empty]
    refine ⟨checker,dot,[],statements_done ?_,kind,first,(List.append_nil _).symm,fun some => absurd empty some⟩
    simp [current_of_rest first,kind]
  cases found_of_clause proper start start with
  | sound statement here there =>
    obtain ⟨dot,split,kind⟩ := stray.split
    have begins : front.map Token.kind ++ [.dot] <+: clause.kinds :=
      ⟨back.map Token.kind,by simp [Clause.kinds,split,kind]⟩
    exact absurd begins (stray.toStray.longer statement)
  | @faulty taken unread code place message fault within mismatch here there =>
    obtain ⟨between,dot,split,kind,plain⟩ := fault.unread_of_stray fielded stray
    have inside : clause.opening ∉ [TokenKind.endWord,.dot,.eof] := by
      intro outside
      have empty := (clause.empty_of_opening proper leading outside).1
      simp [fault.split,split] at empty
    have inner : ∀ token ∈ between, isStop token.kind = false := by
      intro token member
      exact no_stop_inside proper (by simp [fault.split,split,member]) (plain token member)
    have ahead : unread ++ clause.mark :: tail = between ++ dot :: (back ++ clause.mark :: tail) := by simp [split]
    obtain ⟨last,round,rests,notices⟩ := round_of_halts here ahead inner (by simp [isStop,kind])
    rw [if_neg (by simp [kind])] at rests
    have done : last.statements = .finished last := statements_done (by simp [current_of_rest rests,kind])
    refine ⟨last,dot,_,?_,kind,rests,notices,fun _ => ⟨_,List.mem_singleton_self _,within⟩⟩
    rw [statements_round (current_of_clause start ▸ inside),round,Outcome.andThen_finished,done]

theorem statements_of_clauses {clauses : List Clause} (proper : ∀ clause ∈ clauses, clause.Proper)
    (fielded : ∀ clause ∈ clauses, clause.Fielded) (tidy : ∀ clause ∈ clauses, clause.Tidy)
    (parted : ∀ clause ∈ clauses, clause.mark.kind = .semi) :
    ∀ checker : Checker, checker.tokens.rest = clauses.flatMap Clause.all ++ tail →
      ∃ last : Checker, checker.statements = last.statements ∧ last.tokens.rest = tail ∧
        last.notices = checker.notices ++ clauses.flatMap toldAlone := by
  induction clauses with
  | nil => exact fun checker start => ⟨checker,rfl,start,(List.append_nil _).symm⟩
  | cons clause clauses more =>
    intro checker start
    rw [List.flatMap_cons,List.append_assoc] at start
    simp only [List.forall_mem_cons] at proper fielded tidy parted
    obtain ⟨_,between,same,rests,notices⟩ := statements_of_tidy proper.1 fielded.1 tidy.1 start
    rw [Clause.past,if_pos parted.1] at rests
    obtain ⟨last,sameLast,restsLast,noticesLast⟩ := more proper.2 fielded.2 tidy.2 parted.2 between rests
    refine ⟨last,same.trans sameLast,restsLast,?_⟩
    rw [noticesLast,notices,List.flatMap_cons,List.append_assoc]

end Checker

end PascalCheck
