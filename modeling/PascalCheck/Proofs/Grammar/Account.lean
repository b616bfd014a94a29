import PascalCheck.Proofs.Grammar.Acceptance
import PascalCheck.Proofs.Grammar.Straight

namespace PascalCheck.Checker

def codes (checker : Checker) : List Int := checker.sink.toList.map Diagnostic.code

def mismatches (checker : Checker) : Nat := checker.codes.countP fun code => decide (code ∉ closing)

def closings (checker : Checker) : List Int := checker.codes.filter fun code => decide (code ∈ closing)

def recoveries (checker : Checker) : Nat :=
  checker.journal.toList.countP fun
    | .recovered _ => true
    | .reported _ => false

-- From one state to another as many recoveries are made as mismatches are told of, but for those owed, and at least
-- as many tokens are taken.
structure Settled (owed : Nat) (earlier later : Checker) : Prop where
  matched : later.mismatches + earlier.recoveries = earlier.mismatches + later.recoveries + owed
  paid : later.mismatches + later.left ≤ earlier.mismatches + earlier.left + owed
  closings : later.closings = earlier.closings

-- A mismatch that leaves a construct is still to be recovered from.
def Accounts (earlier : Checker) : Checked → Prop
  | .finished later => Settled 0 earlier later
  | .stopped _ later => Settled 1 earlier later

variable {stops : List TokenKind} {checker first between last : Checker} {outcome : Checked}
  {construct other : Checker → Checked}

theorem left_of_quiet (quiet : Quiet first last) : last.left ≤ first.left := by
  have before := Tape.index_add_rest first.tokens
  have after := Tape.index_add_rest last.tokens
  rw [quiet.tokens] at after
  have index := quiet.index
  unfold left
  omega

theorem codes_report (code : Int) (place : Position) (message : Option String) (checker : Checker) :
    (checker.report code place message).codes = checker.codes ++ [code] := by
  simp [codes,report,Sink.entry]

theorem settled_of_quiet (quiet : Quiet first last) : Settled 0 first last := by
  have shorter := left_of_quiet quiet
  constructor
  · simp only [mismatches,recoveries,codes,quiet.sink,quiet.journal,Nat.add_zero]
  · simp only [mismatches,codes,quiet.sink]
    omega
  · simp only [closings,codes,quiet.sink]

theorem Settled.trans {owed : Nat} (before : Settled 0 first between) (after : Settled owed between last) :
    Settled owed first last := by
  obtain ⟨matchedBefore,paidBefore,closedBefore⟩ := before
  obtain ⟨matchedAfter,paidAfter,closedAfter⟩ := after
  refine ⟨?_,?_,closedAfter.trans closedBefore⟩
  · omega
  · omega

theorem settled_report {code : Int} (mismatch : code ∉ closing) (place : Position) (message : Option String)
    (checker : Checker) : Settled 1 checker (checker.report code place message) := by
  constructor
  · simp only [mismatches,recoveries,codes_report]
    simp [mismatch,report]
    omega
  · simp only [mismatches,codes_report]
    simp [mismatch,left,report]
    omega
  · simp [closings,codes_report,mismatch]

theorem recoveries_synchronize (stop : TokenKind → Bool) (checker : Checker) :
    (checker.synchronize stop).recoveries = checker.recoveries + 1 := by
  unfold synchronize
  dsimp only
  split <;> simp [recoveries,next]

-- A recovery settles one mismatch, if a token has been taken for it.
theorem settled_synchronize (owed : Settled 1 between last) (quiet : Quiet first between)
    (taken : between.left < first.left ∨ (last.synchronize isStop).left < last.left) :
    Settled 0 first (last.synchronize isStop) := by
  obtain ⟨matched,paid,closed⟩ := (settled_of_quiet quiet).trans owed
  have made := recoveries_synchronize isStop last
  have shorter := left_synchronize_le isStop last
  have same : (last.synchronize isStop).codes = last.codes := by simp only [codes,sink_synchronize]
  constructor
  · simp only [mismatches,same] at matched ⊢
    omega
  · have spent := owed.paid
    have kept : between.mismatches = first.mismatches := by simp only [mismatches,codes,quiet.sink]
    simp only [mismatches,same] at paid spent kept ⊢
    omega
  · simpa only [closings,same] using closed

namespace Accounts

theorem after (settled : Settled 0 first between) (accounts : Accounts between outcome) : Accounts first outcome := by
  cases outcome with
  | finished last => exact settled.trans accounts
  | stopped cause last => exact settled.trans accounts

theorem straight (straight : Straight stops construct) (checker : Checker) : Accounts checker (construct checker) := by
  rcases straight.once checker with ⟨state,ended,quiet⟩ | ⟨state,code,place,message,ended,quiet,mismatch,_⟩
  · rw [ended]
    exact settled_of_quiet quiet
  · rw [ended]
    exact (settled_of_quiet quiet).trans (settled_report mismatch place message state)

theorem andThen (accounts : Accounts first outcome) (rest : ∀ state, Accounts state (construct state)) :
    Accounts first (outcome.andThen construct) := by
  cases outcome with
  | finished state => exact after accounts (rest state)
  | stopped cause state => exact accounts

theorem recover (accounts : Accounts between (construct checker)) (quiet : Quiet first between)
    (taken : between.left < first.left) : Accounts first (recover construct checker) := by
  unfold Checker.recover
  cases ended : construct checker with
  | finished state =>
    rw [ended] at accounts
    exact (settled_of_quiet quiet).trans accounts
  | stopped cause state =>
    rw [ended] at accounts
    exact settled_synchronize accounts quiet (Or.inl taken)

theorem repeatWhile {again : Checker → Bool} {progress}
    (round : ∀ state, again state = true → Accounts state (construct state)) (checker : Checker) :
    Accounts checker (repeatWhile again construct progress checker) := by
  by_cases more : again checker = true
  · have first := round checker more
    have shorter := progress checker more
    rw [repeatWhile_round more]
    generalize construct checker = outcome at first shorter
    cases outcome with
    | finished state => exact after first (repeatWhile round state)
    | stopped cause state => exact first
  · rw [repeatWhile_done (by simpa using more)]
    exact settled_of_quiet (Quiet.refl _)
termination_by checker.left

end Accounts

theorem accounts_expect {code : Int} (mismatch : code ∉ closing) (kind : TokenKind) (message : Option String)
    (checker : Checker) : Accounts checker (checker.expect kind code message) :=
  Accounts.straight (straight_expect (List.not_mem_nil : kind ∉ []) mismatch message) checker

theorem accounts_need (kind : TokenKind) (checker : Checker) : Accounts checker (checker.need kind) :=
  accounts_expect (by decide) kind none checker

theorem accounts_standardType {code : Int} (mismatch : code ∉ closing) (checker : Checker) :
    Accounts checker (checker.standardType code) :=
  Accounts.straight (straight_standardType (List.nil_subset _) mismatch) checker

theorem accounts_arrayType (checker : Checker) : Accounts checker checker.arrayType := by
  apply Accounts.after (settled_of_quiet (quiet_next checker))
  have bounds := (((accounts_need .lbracket checker.next).andThen (accounts_need .number)).andThen
    (accounts_need .dotdot)).andThen (accounts_need .number)
  have element := (bounds.andThen (accounts_need .rbracket)).andThen (accounts_need .ofWord)
  exact element.andThen (accounts_standardType (by decide))

theorem names_named (named : checker.atName = true) : checker.names = checker.next.furtherNames := by
  have here : checker.current = .ident := by simpa [atName] using named
  simp [names,need,expect,here]

theorem accounts_fieldRound (named : checker.atName = true) : Accounts checker (recover fieldItem checker) := by
  refine Accounts.recover ?_ (quiet_next checker) (next_of_name named)
  unfold fieldItem
  rw [names_named named]
  have names := Accounts.straight (straight_furtherNames (List.nil_subset _)) checker.next
  have typed : Accounts checker.next ((checker.next.furtherNames.andThen (need .colon)).andThen
      (standardType Problem.typeExpected.code)) :=
    (names.andThen (accounts_need .colon)).andThen (accounts_standardType (by decide))
  exact typed.andThen (accounts_need .semi)

theorem accounts_recordType (checker : Checker) : Accounts checker checker.recordType := by
  apply Accounts.after (settled_of_quiet (quiet_next checker))
  have rows : Accounts checker.next checker.next.fields :=
    Accounts.repeatWhile (fun _ named => accounts_fieldRound named) checker.next
  exact rows.andThen (accounts_expect (by decide) .endWord none)

theorem accounts_typeSpec (checker : Checker) : Accounts checker checker.typeSpec := by
  unfold typeSpec
  split
  · exact accounts_arrayType checker
  · split
    · exact accounts_recordType checker
    · exact accounts_standardType (by decide) checker

theorem accounts_variableRound (named : checker.atName = true) : Accounts checker (recover variableItem checker) := by
  refine Accounts.recover ?_ (quiet_next checker) (next_of_name named)
  unfold variableItem
  rw [names_named named]
  have names := Accounts.straight (straight_furtherNames (List.nil_subset _)) checker.next
  exact ((names.andThen (accounts_need .colon)).andThen accounts_typeSpec).andThen (accounts_need .semi)

theorem accounts_constantRound (named : checker.atName = true) : Accounts checker (recover constantItem checker) := by
  refine Accounts.recover ?_ (quiet_next checker) (next_of_name named)
  have value := (accounts_need .eq checker.next).andThen (Accounts.straight (straight_constantValue (List.nil_subset _)))
  exact value.andThen (accounts_need .semi)

theorem accounts_declarations (checker : Checker) : Accounts checker checker.declarations := by
  have opened := settled_of_quiet (quiet_next checker)
  unfold declarations
  split
  · exact (Accounts.repeatWhile (fun _ named => accounts_variableRound named) checker.next).after opened
  · exact (Accounts.repeatWhile (fun _ named => accounts_constantRound named) checker.next).after opened

theorem accounts_heading (checker : Checker) : Accounts checker checker.heading := by
  unfold heading
  split
  · rename_i opens
    have taken : checker.next.left < checker.left := left_next_lt (by simp [opens])
    have name : Accounts checker.next (checker.next.expect .ident Problem.programName.code none) :=
      accounts_expect (by decide) .ident none checker.next
    exact (name.andThen (accounts_need .semi)).recover (quiet_next checker) taken
  · exact settled_of_quiet (Quiet.refl _)

-- A statement takes a token before anything can go wrong in it, or is refused at once. Then the recovery takes one.
theorem accounts_statementRound (more : checker.inCompound = true) : Accounts checker (recover statementItem checker) := by
  simp only [inCompound,Bool.not_eq_true',Bool.or_eq_false_iff,beq_eq_false_iff_ne] at more
  obtain ⟨⟨notEnd,notDot⟩,notEof⟩ := more
  have taken : checker.next.left < checker.left := left_next_lt notEof
  by_cases empty : checker.current = .semi
  · have skipped : checker.statementItem = .finished checker.next := by
      simp [statementItem,statement,separator,empty]
    rw [recover,skipped]
    exact settled_of_quiet (quiet_next checker)
  by_cases subject : checker.current = .ident ∨ checker.current = .writelnWord
  · refine Accounts.recover ?_ (quiet_next checker) taken
    rw [statementItem,statement_of_subject subject]
    exact (Accounts.straight (straight_subject (List.nil_subset _)) checker.next).andThen
      (Accounts.straight (straight_separator (List.not_mem_nil)))
  · have refused : checker.statementItem = checker.failHere Problem.statementExpected.code none := by
      rw [statementItem,statement_of_stranger (by simp [empty,notEnd]) subject]
      rfl
    have stays : isStop checker.current = false := by simp [isStop,empty,notEnd,notDot]
    have skips : ((checker.reportHere Problem.statementExpected.code none).synchronize isStop).left < checker.left :=
      left_synchronize_lt notEof stays
    rw [recover,refused]
    exact settled_synchronize (settled_report (by decide) _ _ checker) (Quiet.refl _) (Or.inr skips)

structure Closes (choices : List Int) (earlier later : Checker) : Prop where
  mismatches : later.mismatches = earlier.mismatches
  recoveries : later.recoveries = earlier.recoveries
  left : later.left ≤ earlier.left
  told : ∃ told, told.length ≤ 1 ∧ told ⊆ choices ∧ later.closings = earlier.closings ++ told

theorem closes_of_quiet {choices : List Int} (quiet : Quiet first last) : Closes choices first last := by
  have settled := settled_of_quiet quiet
  have same : last.mismatches = first.mismatches := by simp only [mismatches,codes,quiet.sink]
  refine ⟨same,?_,left_of_quiet quiet,[],by simp,by simp,by simpa using settled.closings⟩
  have matched := settled.matched
  omega

theorem closes_reportAfter {choices : List Int} {code : Int} (chosen : code ∈ choices) (closes : code ∈ closing)
    (message : Option String) (checker : Checker) : Closes choices checker (checker.reportAfter code message) := by
  refine ⟨?_,?_,Nat.le_refl _,[code],Nat.le_refl _,by simpa using chosen,?_⟩
  · simp [mismatches,reportAfter,codes_report,closes]
  · simp [recoveries,reportAfter,report]
  · simp [closings,reportAfter,codes_report,closes]

theorem closes_body (checker : Checker) :
    ∃ between last, Settled 0 checker between ∧
      Closes [Problem.beginExpected.code,Problem.compoundEnd.code] between last ∧ checker.body = .finished last := by
  unfold body
  split
  · have accounts : Accounts checker checker.next.statements :=
      (Accounts.repeatWhile (fun _ more => accounts_statementRound more) checker.next).after
        (settled_of_quiet (quiet_next checker))
    have ended : checker.next.statements = .finished checker.next.statements.after :=
      (Finishes.recover statementItem).repeatWhile checker.next
    rw [ended] at accounts
    rw [compound,ended,Outcome.andThen_finished,compoundEnd]
    split
    · exact ⟨_,_,accounts,closes_of_quiet (quiet_next _),rfl⟩
    · exact ⟨_,_,accounts,closes_reportAfter (by decide) (by decide) none _,rfl⟩
  · exact ⟨_,_,settled_of_quiet (Quiet.refl _),closes_reportAfter (by decide) (by decide) none checker,rfl⟩

theorem closes_finalDot (checker : Checker) :
    ∃ last, Closes [Problem.dotExpected.code] checker last ∧ checker.finalDot = .finished last := by
  unfold finalDot
  split
  · exact ⟨_,closes_of_quiet (quiet_next checker),rfl⟩
  · exact ⟨_,closes_reportAfter (by decide) (by decide) none checker,rfl⟩

theorem settled_declared (checker : Checker) :
    ∃ last, Settled 0 checker last ∧ checker.heading.andThen sections = .finished last := by
  have accounts : Accounts checker (checker.heading.andThen sections) :=
    (accounts_heading checker).andThen (Accounts.repeatWhile fun state _ => accounts_declarations state)
  cases ended : checker.heading.andThen sections with
  | finished last =>
    rw [ended] at accounts
    exact ⟨last,accounts,rfl⟩
  | stopped cause last =>
    have finished := finishes_program checker
    simp [program,ended] at finished

-- What a whole check does to the account, and the closing reports it may make.
theorem settled_program (checker : Checker) :
    ∃ between last, Settled 0 checker between ∧ checker.program = .finished last ∧
      last.mismatches = between.mismatches ∧ last.recoveries = between.recoveries ∧
      ∃ early late, last.closings = between.closings ++ (early ++ late) ∧
        early.length ≤ 1 ∧ early ⊆ [Problem.beginExpected.code,Problem.compoundEnd.code] ∧
        late.length ≤ 1 ∧ late ⊆ [Problem.dotExpected.code] := by
  obtain ⟨declared,settled,declares⟩ := settled_declared checker
  obtain ⟨between,reached,account,body,bodied⟩ := closes_body declared
  obtain ⟨last,dot,dotted⟩ := closes_finalDot reached
  obtain ⟨early,earlyOne,earlyOf,told⟩ := body.told
  obtain ⟨late,lateOne,lateOf,toldLast⟩ := dot.told
  refine ⟨between,last,settled.trans account,?_,dot.mismatches.trans body.mismatches,
    dot.recoveries.trans body.recoveries,early,late,?_,earlyOne,earlyOf,lateOne,lateOf⟩
  · rw [program,declares,Outcome.andThen_finished,bodied,Outcome.andThen_finished,dotted]
  · rw [toldLast,told,List.append_assoc]

theorem count_of_closing {code : Int} (closes : code ∈ closing) (checker : Checker) :
    checker.codes.count code = checker.closings.count code := by
  rw [closings,List.count_filter (by simpa using closes)]

theorem length_of_parts (checker : Checker) :
    checker.sink.toList.length = checker.mismatches + checker.closings.length := by
  have parts := List.length_eq_countP_add_countP (fun code => decide (code ∈ closing)) (l := checker.codes)
  rw [show checker.sink.toList.length = checker.codes.length by simp [codes],parts,closings,
    ← List.countP_eq_length_filter,Nat.add_comm,mismatches]
  simp

theorem counts_le_one {a b : Int} (apart : a ≠ b) {codes : List Int} (short : codes.length ≤ 1) :
    codes.count a + codes.count b ≤ 1 := by
  rcases codes with _ | ⟨code,_ | ⟨next,rest⟩⟩
  · exact Nat.zero_le _
  · by_cases first : code = a
    · rw [first,List.count_singleton_self,List.count_singleton,if_neg (by simpa using apart)]
    · rw [List.count_singleton,if_neg (by simpa using first),Nat.zero_add]
      exact List.count_le_length
  · simp at short

theorem mismatches_recovered_once (tokens : List Token) :
    (ofTokens tokens {}).program = .finished (ended tokens {}) ∧
      (ended tokens {}).recoveries = (ended tokens {}).mismatches ∧
      (ended tokens {}).codes.count Problem.beginExpected.code + (ended tokens {}).codes.count Problem.compoundEnd.code ≤ 1 ∧
      (ended tokens {}).codes.count Problem.dotExpected.code ≤ 1 ∧
      (ended tokens {}).sink.toList.length ≤ tokens.length + 2 := by
  obtain ⟨between,last,settled,ends,mismatches,recoveries,early,late,told,earlyOne,earlyOf,lateOne,lateOf⟩ :=
    settled_program (ofTokens tokens {})
  have same : ended tokens {} = last := by rw [ended,ends,Outcome.after_finished]
  have fresh : (ofTokens tokens {}).closings = [] := rfl
  rw [settled.closings,fresh,List.nil_append] at told
  rw [same,count_of_closing (by decide),count_of_closing (by decide),count_of_closing (by decide),length_of_parts,told]
  refine ⟨ends,?_,?_,?_,?_⟩
  · have matched := settled.matched
    have none : (ofTokens tokens {}).mismatches = 0 ∧ (ofTokens tokens {}).recoveries = 0 := ⟨rfl,rfl⟩
    omega
  · have notLate : ∀ code ∈ [Problem.beginExpected.code,Problem.compoundEnd.code], late.count code = 0 := by
      intro code chosen
      apply List.count_eq_zero_of_not_mem
      intro member
      rw [List.mem_singleton.mp (lateOf member)] at chosen
      exact absurd chosen (by decide)
    rw [List.count_append,List.count_append,notLate _ (by decide),notLate _ (by decide)]
    exact counts_le_one (by decide) earlyOne
  · have notEarly : early.count Problem.dotExpected.code = 0 :=
      List.count_eq_zero_of_not_mem fun member => absurd (earlyOf member) (by decide)
    rw [List.count_append,notEarly,Nat.zero_add]
    exact Nat.le_trans List.count_le_length lateOne
  · have paid := settled.paid
    have none : (ofTokens tokens {}).mismatches = 0 ∧ (ofTokens tokens {}).left = tokens.length := ⟨rfl,rfl⟩
    rw [List.length_append]
    omega

end PascalCheck.Checker
