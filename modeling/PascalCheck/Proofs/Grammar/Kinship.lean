import PascalCheck.Proofs.Grammar.Straight

namespace PascalCheck

def Sink.told (sink : Sink) : List (Int × String) := sink.toList.map fun entry => (entry.code,entry.message)

theorem Sink.told_report (sink : Sink) (code : Int) (place : Position) (message : Option String) :
    (sink.report code place message).told = sink.told ++ [(code,message.getD (Problem.messageOf code))] := by
  simp [told,entry]

namespace Checker

variable {one two : Checker} {first second : Checked} {construct other : Checker → Checked}

structure Akin (one two : Checker) : Prop where
  behind : one.behind = two.behind
  ahead : one.ahead = two.ahead
  told : one.sink.told = two.sink.told
  journal : one.journal = two.journal

-- What a check sees of the tokens, and what a move does, can be told from the kinds.
theorem current_of_kinds (checker : Checker) : checker.current = checker.ahead.headD .eof := by
  rcases checker with ⟨⟨passed,_ | ⟨token,rest⟩⟩,sink,journal⟩ <;> rfl

theorem following_of_kinds (checker : Checker) : checker.tokens.following = checker.ahead.tail.headD .eof := by
  rcases checker with ⟨⟨passed,_ | ⟨token,_ | ⟨next,rest⟩⟩⟩,sink,journal⟩ <;> rfl

theorem kinds_next (checker : Checker) :
    checker.next.behind = checker.behind ++ checker.ahead.take 1 ∧ checker.next.ahead = checker.ahead.tail := by
  rcases checker with ⟨⟨passed,_ | ⟨token,rest⟩⟩,sink,journal⟩
  · exact ⟨(List.append_nil _).symm,rfl⟩
  · exact ⟨by simp [behind,next,Tape.forward,ahead],rfl⟩

theorem kinds_before (stop : TokenKind → Bool) (checker : Checker) :
    (checker.tokens.before stop).map Token.kind = checker.ahead.takeWhile fun kind => !stop kind := by
  rw [ahead,List.takeWhile_map]
  rfl

theorem kinds_skipTo (stop : TokenKind → Bool) (checker : Checker) :
    (checker.tokens.skipTo stop).passed.reverse.map Token.kind =
        checker.behind ++ checker.ahead.takeWhile (fun kind => !stop kind) ∧
      (checker.tokens.skipTo stop).rest.map Token.kind = checker.ahead.dropWhile fun kind => !stop kind := by
  constructor
  · rw [← kinds_before,behind,← List.map_append]
    simp [TokenStream.skipTo]
  · rw [ahead,List.dropWhile_map]
    rfl

namespace Akin

theorem current (akin : Akin one two) : one.current = two.current := by
  rw [current_of_kinds,current_of_kinds,akin.ahead]

theorem following (akin : Akin one two) : one.tokens.following = two.tokens.following := by
  rw [following_of_kinds,following_of_kinds,akin.ahead]

theorem index (akin : Akin one two) : one.tokens.index = two.tokens.index := by
  simpa [Checker.behind,Tape.index] using congrArg List.length akin.behind

theorem next (akin : Akin one two) : Akin one.next two.next := by
  obtain ⟨behindOne,aheadOne⟩ := kinds_next one
  obtain ⟨behindTwo,aheadTwo⟩ := kinds_next two
  refine ⟨?_,?_,akin.told,akin.journal⟩
  · rw [behindOne,behindTwo,akin.behind,akin.ahead]
  · rw [aheadOne,aheadTwo,akin.ahead]

theorem report (akin : Akin one two) (code : Int) (here there : Position) (message : Option String) :
    Akin (one.report code here message) (two.report code there message) := by
  refine ⟨akin.behind,akin.ahead,?_,?_⟩
  · simp only [Checker.report,Sink.told_report,akin.told]
  · simp only [Checker.report,akin.journal,akin.index]

theorem synchronize (akin : Akin one two) (stop : TokenKind → Bool) : Akin (one.synchronize stop) (two.synchronize stop) := by
  obtain ⟨behindOne,aheadOne⟩ := kinds_skipTo stop one
  obtain ⟨behindTwo,aheadTwo⟩ := kinds_skipTo stop two
  have skipped : (one.tokens.before stop).length = (two.tokens.before stop).length := by
    have kinds := congrArg List.length (kinds_before stop one)
    rw [akin.ahead,← kinds_before stop two] at kinds
    simpa using kinds
  have rested : Akin
      { one with
        tokens := one.tokens.skipTo stop
        journal := one.journal.push (.recovered (one.tokens.before stop).length) }
      { two with
        tokens := two.tokens.skipTo stop
        journal := two.journal.push (.recovered (two.tokens.before stop).length) } := by
    refine ⟨behindOne.trans ?_,aheadOne.trans ?_,akin.told,?_⟩
    · rw [akin.behind,akin.ahead]
      exact behindTwo.symm
    · rw [akin.ahead]
      exact aheadTwo.symm
    · rw [akin.journal,skipped]
  simp only [Checker.synchronize,rested.current]
  split
  · exact rested.next
  · exact rested

end Akin

inductive Matched : Checked → Checked → Prop where
  | finished {one two : Checker} (akin : Akin one two) : Matched (.finished one) (.finished two)
  | stopped {one two : Checker} (akin : Akin one two) : Matched (.stopped .reported one) (.stopped .reported two)

-- A construct that is led by the kinds of the tokens alone.
structure Placeless (construct : Checker → Checked) : Prop where
  matched : ∀ {one two : Checker}, Akin one two → Matched (construct one) (construct two)

theorem inStep_akin {stops : List TokenKind} : InStep stops Akin :=
  ⟨fun akin => akin.current,fun akin _ => akin.following,fun akin _ => akin.next⟩

theorem Matched.after (matched : Matched first second) : Akin first.after second.after := by
  cases matched with
  | finished akin => exact akin
  | stopped akin => exact akin

theorem Matched.andThen (matched : Matched first second) (placeless : Placeless construct) :
    Matched (first.andThen construct) (second.andThen construct) := by
  cases matched with
  | finished akin => exact placeless.matched akin
  | stopped akin => exact .stopped akin

theorem Straight.placeless (straight : Straight [] construct) : Placeless construct := by
  constructor
  intro one two akin
  have alike := straight.alike inStep_akin akin
  generalize construct one = first at alike
  generalize construct two = second at alike
  cases alike with
  | finished _ _ same => exact .finished same
  | failAfter _ _ same _ message => exact .stopped (same.report _ _ _ message)
  | failHere _ _ same _ message => exact .stopped (same.report _ _ _ message)

namespace Placeless

theorem finished : Placeless .finished := ⟨.finished⟩

theorem told (code : Int) (message : Option String) :
    Placeless fun checker => .finished (checker.reportAfter code message) := by
  constructor
  intro one two akin
  exact .finished (akin.report _ _ _ _)

theorem failHere (code : Int) (message : Option String) : Placeless (failHere code message) := by
  constructor
  intro one two akin
  exact .stopped (akin.report _ _ _ _)

theorem next (placeless : Placeless construct) : Placeless fun checker => construct checker.next := by
  constructor
  intro one two akin
  exact placeless.matched akin.next

theorem andThen (here : Placeless construct) (there : Placeless other) :
    Placeless fun checker => (construct checker).andThen other := by
  constructor
  intro one two akin
  exact (here.matched akin).andThen there

theorem choice {P : TokenKind → Prop} [DecidablePred P] (here : Placeless construct) (there : Placeless other) :
    Placeless fun checker => if P checker.current then construct checker else other checker := by
  constructor
  intro one two akin
  rw [akin.current]
  by_cases chosen : P two.current
  · rw [if_pos chosen,if_pos chosen]
    exact here.matched akin
  · rw [if_neg chosen,if_neg chosen]
    exact there.matched akin

theorem recover (placeless : Placeless construct) : Placeless (recover construct) := by
  constructor
  intro one two akin
  have matched := placeless.matched akin
  unfold Checker.recover
  generalize construct one = first at matched
  generalize construct two = second at matched
  cases matched with
  | finished akin => exact .finished akin
  | stopped akin => exact .finished (akin.synchronize isStop)

theorem rounds {again : Checker → Bool} {progress} (placeless : Placeless construct)
    (seen : ∀ {one two}, one.current = two.current → again one = again two) (one two : Checker) (akin : Akin one two) :
    Matched (repeatWhile again construct progress one) (repeatWhile again construct progress two) := by
  by_cases more : again one = true
  · have matched := placeless.matched akin
    have shorter := progress one more
    rw [repeatWhile_round more,repeatWhile_round (seen akin.current ▸ more)]
    generalize construct one = first at matched shorter
    generalize construct two = second at matched
    cases matched with
    | finished akin => exact rounds placeless seen _ _ akin
    | stopped akin => exact .stopped akin
  · have done : again one = false := by simpa using more
    rw [repeatWhile_done done,repeatWhile_done (seen akin.current ▸ done)]
    exact .finished akin
termination_by one.left

theorem repeatWhile {again : Checker → Bool} {progress} (placeless : Placeless construct)
    (seen : ∀ {one two}, one.current = two.current → again one = again two) :
    Placeless (repeatWhile again construct progress) := ⟨rounds placeless seen _ _⟩

end Placeless

section
open List (nil_subset)

theorem placeless_need (kind : TokenKind) : Placeless (need kind) := (straight_need List.not_mem_nil).placeless

theorem placeless_expect (kind : TokenKind) {code : Int} (mismatch : code ∉ closing) (message : Option String) :
    Placeless (expect kind code message) := (straight_expect List.not_mem_nil mismatch message).placeless

theorem placeless_standardType {code : Int} (mismatch : code ∉ closing) : Placeless (standardType code) :=
  (straight_standardType (nil_subset _) mismatch).placeless

theorem placeless_statement : Placeless statement := by
  have subject : Placeless fun checker => checker.next.selector.andThen action :=
    (straight_subject (nil_subset _)).placeless.next
  have begun := subject.choice (P := fun kind => kind = .ident ∨ kind = .writelnWord)
    (.failHere Problem.statementExpected.code none)
  exact Placeless.finished.choice (P := fun kind => kind = .semi ∨ kind = .endWord) begun

theorem placeless_statements : Placeless statements := by
  have item : Placeless statementItem := placeless_statement.andThen (straight_separator List.not_mem_nil).placeless
  apply item.recover.repeatWhile
  intro one two same
  simp only [inCompound,same]

theorem placeless_compound : Placeless compound := by
  have last : Placeless compoundEnd := Placeless.finished.next.choice (P := fun kind => kind = .endWord) (.told _ _)
  exact placeless_statements.next.andThen last

theorem placeless_names : Placeless names := (placeless_need .ident).andThen (straight_furtherNames (nil_subset _)).placeless

theorem placeless_arrayType : Placeless arrayType := by
  have bounds := ((((placeless_need .lbracket).next.andThen (placeless_need .number)).andThen
    (placeless_need .dotdot)).andThen (placeless_need .number)).andThen (placeless_need .rbracket)
  exact (bounds.andThen (placeless_need .ofWord)).andThen (placeless_standardType (by decide))

theorem seen_atName (same : one.current = two.current) : one.atName = two.atName := by
  simp only [atName,same]

theorem placeless_recordType : Placeless recordType := by
  have item : Placeless fieldItem :=
    ((placeless_names.andThen (placeless_need .colon)).andThen (placeless_standardType (by decide))).andThen
      (placeless_need .semi)
  have fields : Placeless fields := item.recover.repeatWhile seen_atName
  exact fields.next.andThen (placeless_expect .endWord (by decide) none)

theorem placeless_typeSpec : Placeless typeSpec := by
  have plain : Placeless (standardType Problem.typeExpected.code) := placeless_standardType (by decide)
  have record := placeless_recordType.choice (P := fun kind => kind = .recordWord) plain
  exact placeless_arrayType.choice (P := fun kind => kind = .arrayWord) record

theorem placeless_varSection : Placeless varSection := by
  have item : Placeless variableItem :=
    ((placeless_names.andThen (placeless_need .colon)).andThen placeless_typeSpec).andThen (placeless_need .semi)
  have items : Placeless (repeatWhile atName (recover variableItem) variable_progress) :=
    item.recover.repeatWhile seen_atName
  exact items.next

theorem placeless_constSection : Placeless constSection := by
  have value : Placeless constantValue := (straight_constantValue (nil_subset _)).placeless
  have item : Placeless constantItem := ((placeless_need .eq).next.andThen value).andThen (placeless_need .semi)
  have items : Placeless (repeatWhile atName (recover constantItem) constant_progress) :=
    item.recover.repeatWhile seen_atName
  exact items.next

theorem placeless_sections : Placeless sections := by
  have declared : Placeless declarations :=
    placeless_varSection.choice (P := fun kind => kind = .varWord) placeless_constSection
  apply declared.repeatWhile
  intro one two same
  simp only [atSection,same]

theorem placeless_heading : Placeless heading := by
  have title : Placeless title := (placeless_expect .ident (by decide) none).andThen (placeless_need .semi)
  exact title.recover.next.choice (P := fun kind => kind = .programWord) .finished

theorem placeless_program : Placeless program := by
  have body : Placeless body := placeless_compound.choice (P := fun kind => kind = .beginWord) (.told _ _)
  have last : Placeless finalDot := Placeless.finished.next.choice (P := fun kind => kind = .dot) (.told _ _)
  exact ((placeless_heading.andThen placeless_sections).andThen body).andThen last

end

-- Of the reports that were there before, only the codes and the messages have to be the same.
theorem akin_program {tokens others : List Token} {sink held : Sink}
    (kinds : tokens.map Token.kind = others.map Token.kind) (told : sink.told = held.told) :
    Akin (ofTokens tokens sink).program.after (ofTokens others held).program.after := by
  have begun : Akin (ofTokens tokens sink) (ofTokens others held) := ⟨rfl,kinds,told,rfl⟩
  exact (placeless_program.matched begun).after

end Checker

end PascalCheck
