import PascalCheck.Proofs.Grammar.Reading

namespace PascalCheck.Checker
open Grammar
open scoped Computability

def ended (tokens : List Token) (sink : Sink) : Checker := (ofTokens tokens sink).program.after

theorem expects_program (tokens : List Token) (sink : Sink) :
    Expects Grammar.program (ofTokens tokens sink) Grammar.program :=
  ⟨fun _ member => member,fun sentence held _ => ⟨sentence,held,rfl⟩⟩

theorem meets_ended (tokens : List Token) (sink : Sink) :
    Meets Grammar.program (ofTokens tokens sink) (Expects Grammar.program · 1) (.finished (ended tokens sink)) := by
  have meets := meets_program (expects_program tokens sink)
  rwa [finishes_program] at meets

theorem inSight_of_front {checker : Checker} {sentence : List TokenKind}
    (front : sentence <+: checker.behind ++ checker.ahead) : InSight checker sentence :=
  (List.take_prefix _ _).trans front

theorem kinds_of_quiet {tokens : List Token} {sink : Sink} {state : Checker}
    (quiet : Quiet (ofTokens tokens sink) state) : state.behind ++ state.ahead = tokens.map Token.kind := by
  rw [behind_ahead,quiet.tokens]
  rfl

theorem length_behind (checker : Checker) : checker.behind.length = checker.tokens.index := by
  simp [behind,Tape.index]

-- Without a report a sentence has been passed, and no other one stands at the front of the tokens.
theorem sentence_of_quiet {tokens : List Token} {sink : Sink} {state : Checker}
    (quiet : Quiet (ofTokens tokens sink) state) (expects : Expects Grammar.program state 1) :
    state.behind ∈ Grammar.program ∧ state.behind <+: tokens.map Token.kind ∧
      ∀ sentence ∈ Grammar.program, sentence <+: tokens.map Token.kind → sentence = state.behind := by
  have kinds := kinds_of_quiet quiet
  refine ⟨?_,⟨state.ahead,kinds⟩,fun sentence held front => ?_⟩
  · simpa using expects.complete [] rfl
  · obtain ⟨_,rfl,same⟩ := expects.only sentence held (inSight_of_front (kinds ▸ front))
    rw [← same,List.append_nil]

theorem no_sentence_of_deviates {tokens : List Token} {sink : Sink} {state : Checker}
    (quiet : Quiet (ofTokens tokens sink) state) (deviates : Deviates Grammar.program state) :
    ∀ sentence ∈ Grammar.program, ¬ sentence <+: tokens.map Token.kind := by
  intro sentence held front
  exact deviates.refused sentence held (inSight_of_front (kinds_of_quiet quiet ▸ front))

-- A sentence at the front of the tokens is passed without a report.
theorem quiet_of_sentence {tokens : List Token} {sink : Sink} {sentence : List TokenKind}
    (held : sentence ∈ Grammar.program) (front : sentence <+: tokens.map Token.kind) :
    Quiet (ofTokens tokens sink) (ended tokens sink) ∧ (ended tokens sink).tokens.index = sentence.length := by
  rcases meets_ended tokens sink with ⟨quiet,expects⟩ | told
  · obtain ⟨_,_,only⟩ := sentence_of_quiet quiet expects
    rw [only sentence held front,length_behind]
    exact ⟨quiet,rfl⟩
  · obtain ⟨state,_,_,_,quiet,deviates,_⟩ := told
    exact absurd front (no_sentence_of_deviates quiet deviates sentence held)

theorem size_of_told {whole : Phrases} {first last : Checker} (told : Told whole first last) :
    first.sink.size < last.sink.size := by
  obtain ⟨state,code,place,message,quiet,_,_,later⟩ := told
  obtain ⟨added,same,_⟩ := later.reports
  have lengths := congrArg List.length same
  rw [show (state.report code place message).sink.toList = state.sink.toList ++ [state.sink.entry code place message]
    from Sink.toList_report _ _ _ _,quiet.sink] at lengths
  simp only [Sink.toList,List.length_append,List.length_singleton,Array.length_toList] at lengths
  simp only [Sink.size]
  omega

theorem program_clean_iff_sentence (tokens : List Token) :
    (ofTokens tokens {}).program = .finished (ended tokens {}) ∧
      ((ended tokens {}).sink.toList = [] ↔ ∃ sentence ∈ Grammar.program, sentence <+: tokens.map Token.kind) ∧
      ∀ sentence ∈ Grammar.program, sentence <+: tokens.map Token.kind →
        (ended tokens {}).tokens.index = sentence.length ∧
          sentence = (tokens.map Token.kind).take (ended tokens {}).tokens.index := by
  refine ⟨finishes_program _,⟨fun empty => ?_,?_⟩,?_⟩
  · rcases meets_ended tokens {} with ⟨quiet,expects⟩ | told
    · obtain ⟨held,front,_⟩ := sentence_of_quiet quiet expects
      exact ⟨_,held,front⟩
    · have size : 0 < (ended tokens {}).sink.toList.length := size_of_told told
      rw [empty] at size
      cases size
  · intro ⟨sentence,held,front⟩
    rw [(quiet_of_sentence held front).1.sink]
    rfl
  · intro sentence held front
    have passed : (ended tokens {}).tokens.index = sentence.length := (quiet_of_sentence held front).2
    exact ⟨passed,passed ▸ List.prefix_iff_eq_take.mp front⟩

theorem sentence_of_clean {tokens : List Token} (clean : (ended tokens {}).sink.toList = []) :
    ∃ sentence ∈ Grammar.program, sentence <+: tokens.map Token.kind ∧
      (ended tokens {}).tokens.index = sentence.length := by
  rcases meets_ended tokens {} with ⟨quiet,expects⟩ | told
  · obtain ⟨held,front,_⟩ := sentence_of_quiet quiet expects
    exact ⟨_,held,front,(length_behind _).symm⟩
  · have size : 0 < (ended tokens {}).sink.toList.length := size_of_told told
    rw [clean] at size
    cases size

theorem atEnd_ended_iff (tokens : List Token) :
    (ended tokens {}).tokens.atEnd = true ↔ (ended tokens {}).tokens.index = tokens.length := by
  have later := proceeds_program (ofTokens tokens {})
  have run : (ended tokens {}).tokens.toList = tokens := later.tokens
  rw [Tape.atEnd_iff,run]

-- A clean check has read a sentence and nothing behind it, whatever stands there.
theorem clean_atEnd_iff_sentence (tokens : List Token) (clean : (ended tokens {}).sink.toList = []) :
    ((ended tokens {}).tokens.atEnd = true ↔ tokens.map Token.kind ∈ Grammar.program) ∧
      ∀ more, (ended (tokens ++ more) {}).sink.toList = [] ∧
        (ended (tokens ++ more) {}).tokens.index = (ended tokens {}).tokens.index := by
  obtain ⟨sentence,held,front,passed⟩ := sentence_of_clean clean
  constructor
  · rw [atEnd_ended_iff]
    constructor
    · intro past
      have whole : sentence = tokens.map Token.kind :=
        front.eq_of_length (by rw [← passed,past,List.length_map])
      exact whole ▸ held
    · intro member
      have whole : (ended tokens {}).tokens.index = (tokens.map Token.kind).length :=
        (quiet_of_sentence member (List.prefix_refl _)).2
      rwa [List.length_map] at whole
  · intro more
    have front : sentence <+: (tokens ++ more).map Token.kind := by
      rw [List.map_append]
      exact front.trans (List.prefix_append _ _)
    have ⟨quiet,again⟩ : Quiet (ofTokens (tokens ++ more) {}) (ended (tokens ++ more) {}) ∧
        (ended (tokens ++ more) {}).tokens.index = sentence.length := quiet_of_sentence held front
    exact ⟨by rw [quiet.sink]; rfl,again.trans passed.symm⟩

theorem clean_atEnd_of_shortest :
    let tokens := [⟨.beginWord,⟨0,0⟩⟩,⟨.endWord,⟨0,6⟩⟩,⟨.dot,⟨0,9⟩⟩]
    (ended tokens {}).sink.toList = [] ∧
      ((ended tokens {}).tokens.atEnd = true ↔ tokens.map Token.kind ∈ Grammar.program) ∧
      ∀ more, (ended (tokens ++ more) {}).sink.toList = [] ∧
        (ended (tokens ++ more) {}).tokens.index = (ended tokens {}).tokens.index := by
  have clean : (ended [⟨.beginWord,⟨0,0⟩⟩,⟨.endWord,⟨0,6⟩⟩,⟨.dot,⟨0,9⟩⟩] {}).sink.toList = [] := by
    cbv
  exact ⟨clean,clean_atEnd_iff_sentence _ clean⟩

theorem clean_before_end :
    ¬ ∀ tokens : List Token, (ended tokens {}).sink.toList = [] → (ended tokens {}).tokens.atEnd = true := by
  intro reads
  have clean : (ended [⟨.beginWord,⟨0,0⟩⟩,⟨.endWord,⟨0,6⟩⟩,⟨.dot,⟨0,9⟩⟩,⟨.ident,⟨0,11⟩⟩] {}).sink.toList = [] := by
    cbv
  have unread : (ended [⟨.beginWord,⟨0,0⟩⟩,⟨.endWord,⟨0,6⟩⟩,⟨.dot,⟨0,9⟩⟩,⟨.ident,⟨0,11⟩⟩] {}).tokens.atEnd = false := by
    cbv
  exact absurd (reads _ clean) (by simp [unread])

def firstReport? (checker : Checker) : Option Nat :=
  checker.journal.toList.findSome? fun
    | .reported passed => some passed
    | .recovered _ => none

-- So many tokens begin a sentence, and there the tokens leave every sentence. Only a dot may be
-- passed by, which belongs to a sentence with an identifier after it. The place is near by.
structure MarksDeviation (tokens : List Token) (passed : Nat) (place : Position) : Prop where
  viable : ∃ sentence ∈ Grammar.program, (tokens.map Token.kind).take passed <+: sentence
  deviates :
    (passed = tokens.length ∧ ∀ sentence ∈ Grammar.program, ¬ sentence <+: tokens.map Token.kind) ∨
    (passed < tokens.length ∧
      ∀ sentence ∈ Grammar.program, ¬ (tokens.map Token.kind).take (passed + 1) <+: sentence) ∨
    ((tokens.map Token.kind)[passed]? = some .dot ∧ (tokens.map Token.kind)[passed + 1]? ≠ some .ident ∧
      (passed + 1 = tokens.length ∨
        ∀ sentence ∈ Grammar.program, ¬ (tokens.map Token.kind).take (passed + 2) <+: sentence))
  nearby : passed ≠ 0 →
    ∃ token, (tokens[passed]? = some token ∨ tokens[passed - 1]? = some token) ∧ token.position = place
  atEnd : passed = tokens.length → ∀ last, tokens.getLast? = some last → last.position = place
  atStart : passed = 0 → place = .start

theorem behind_eq_take {tokens : List Token} {sink : Sink} {state : Checker}
    (quiet : Quiet (ofTokens tokens sink) state) :
    state.behind = (tokens.map Token.kind).take state.tokens.index := by
  rw [← kinds_of_quiet quiet,← length_behind,List.take_left]

theorem inSight_of_take {checker : Checker} {kinds sentence : List TokenKind}
    (same : checker.behind ++ checker.ahead = kinds)
    (enough : checker.tokens.index + sight checker.ahead ≤ kinds.length)
    (begins : kinds.take (checker.tokens.index + sight checker.ahead) <+: sentence) : InSight checker sentence := by
  have taken := List.prefix_iff_eq_take.mp begins
  rw [List.length_take,Nat.min_eq_left enough] at taken
  rw [InSight,length_behind,← taken,same]
  exact List.take_prefix _ _

theorem deviates_of_ahead {tokens : List Token} {sink : Sink} {state : Checker}
    (quiet : Quiet (ofTokens tokens sink) state) (deviates : Deviates Grammar.program state) :
    (state.tokens.index = tokens.length ∧ ∀ sentence ∈ Grammar.program, ¬ sentence <+: tokens.map Token.kind) ∨
    (state.tokens.index < tokens.length ∧
      ∀ sentence ∈ Grammar.program, ¬ (tokens.map Token.kind).take (state.tokens.index + 1) <+: sentence) ∨
    ((tokens.map Token.kind)[state.tokens.index]? = some .dot ∧
      (tokens.map Token.kind)[state.tokens.index + 1]? ≠ some .ident ∧
      (state.tokens.index + 1 = tokens.length ∨
        ∀ sentence ∈ Grammar.program, ¬ (tokens.map Token.kind).take (state.tokens.index + 2) <+: sentence)) := by
  have kinds := kinds_of_quiet quiet
  have lengths : state.tokens.index + state.ahead.length = tokens.length := by
    rw [← length_behind,← List.length_append,kinds,List.length_map]
  have unseen : state.tokens.index + sight state.ahead ≤ tokens.length → ∀ sentence ∈ Grammar.program,
      ¬ (tokens.map Token.kind).take (state.tokens.index + sight state.ahead) <+: sentence :=
    fun enough sentence held begins =>
      deviates.refused sentence held (inSight_of_take kinds (by simpa using enough) begins)
  have seen : ∀ distance, (tokens.map Token.kind)[state.tokens.index + distance]? = state.ahead[distance]? := by
    intro distance
    rw [← kinds,← length_behind,List.getElem?_append_right (Nat.le_add_right _ _),Nat.add_sub_cancel_left]
  by_cases dotted : state.ahead.head? = some .dot ∧ state.ahead[1]? ≠ some TokenKind.ident
  · have here : (tokens.map Token.kind)[state.tokens.index]? = some .dot := by
      rw [← dotted.1,List.head?_eq_getElem?]
      exact seen 0
    have two : sight state.ahead = 2 := if_pos dotted
    rw [two] at unseen
    refine Or.inr (Or.inr ⟨here,(seen 1).symm ▸ dotted.2,?_⟩)
    have more : state.ahead ≠ [] := by intro none; simp [none] at dotted
    have some := List.length_pos_iff.mpr more
    by_cases last : state.tokens.index + 1 = tokens.length
    · exact Or.inl last
    · exact Or.inr (unseen (by omega))
  · have one : sight state.ahead = 1 := if_neg dotted
    rw [one] at unseen
    by_cases past : state.tokens.index = tokens.length
    · exact Or.inl ⟨past,no_sentence_of_deviates quiet deviates⟩
    · exact Or.inr (Or.inl ⟨by omega,unseen (by omega)⟩)

theorem started_of_inside {checker : Checker} (inside : Inside Grammar.program checker) : checker.tokens.index ≠ 0 := by
  obtain ⟨kind,rest,member,inner⟩ := inside
  intro zero
  have empty : checker.behind = [] := List.length_eq_zero_iff.mp ((length_behind checker).trans zero)
  rw [empty] at member
  obtain ⟨first,held,_,same⟩ := opens_program.opening _ member
  exact inner ((List.cons.inj same).1 ▸ held)

end PascalCheck.Checker

namespace PascalCheck.TokenStream

theorem lastPosition_at {stream : TokenStream} (started : stream.index ≠ 0) :
    ∃ token, stream.toList[stream.index - 1]? = some token ∧ token.position = stream.lastPosition := by
  rcases stream with ⟨_ | ⟨token,passed⟩,rest⟩
  · exact absurd rfl started
  · exact ⟨token,by simp [Tape.index,Tape.toList],rfl⟩

theorem currentPosition_at {stream : TokenStream} (started : stream.index ≠ 0) :
    ∃ token, (stream.toList[stream.index]? = some token ∨ stream.toList[stream.index - 1]? = some token) ∧
      token.position = stream.currentPosition := by
  rcases stream with ⟨passed,_ | ⟨token,rest⟩⟩
  · obtain ⟨token,found,same⟩ := lastPosition_at started
    exact ⟨token,Or.inr found,same⟩
  · exact ⟨token,Or.inl (by simp [Tape.index,Tape.toList]),rfl⟩

theorem positions_atEnd {stream : TokenStream} {last : Token} (past : stream.index = stream.toList.length)
    (found : stream.toList.getLast? = some last) :
    last.position = stream.lastPosition ∧ last.position = stream.currentPosition := by
  rcases stream with ⟨_ | ⟨token,passed⟩,_ | ⟨next,rest⟩⟩
  · cases found
  · simp [Tape.index,Tape.toList] at past
  · have same : token = last := by simpa [Tape.toList] using found
    exact ⟨same ▸ rfl,same ▸ rfl⟩
  · simp [Tape.index,Tape.toList] at past

end PascalCheck.TokenStream

namespace PascalCheck.Checker
open Grammar

theorem marks_of_deviates {tokens : List Token} {sink : Sink} {state : Checker} {place : Position}
    (quiet : Quiet (ofTokens tokens sink) state) (deviates : Deviates Grammar.program state)
    (stands : place = state.tokens.lastPosition ∨ Inside Grammar.program state ∧ place = state.tokens.currentPosition) :
    MarksDeviation tokens state.tokens.index place := by
  have run : state.tokens.toList = tokens := quiet.tokens
  constructor
  · obtain ⟨word,member⟩ := deviates.viable
    exact ⟨_,member,behind_eq_take quiet ▸ List.prefix_append _ _⟩
  · exact deviates_of_ahead quiet deviates
  · intro started
    rcases stands with rfl | ⟨_,rfl⟩
    · obtain ⟨token,found,same⟩ := TokenStream.lastPosition_at started
      exact ⟨token,Or.inr (run ▸ found),same⟩
    · exact run ▸ TokenStream.currentPosition_at started
  · intro past last found
    rw [← run] at past found
    have both := TokenStream.positions_atEnd past found
    rcases stands with rfl | ⟨_,rfl⟩
    · exact both.1
    · exact both.2
  · intro zero
    rcases stands with rfl | ⟨inside,_⟩
    · have none : state.tokens.passed = [] := List.length_eq_zero_iff.mp zero
      simp [TokenStream.lastPosition,none]
    · exact absurd zero (started_of_inside inside)

theorem first_report_marks_deviation (tokens : List Token) (sink : Sink)
    (told : sink.size < (ended tokens sink).sink.size) :
    ∃ passed entry, (ended tokens sink).firstReport? = some passed ∧
      (ended tokens sink).sink.toList[sink.size]? = some entry ∧ MarksDeviation tokens passed entry.place := by
  rcases meets_ended tokens sink with ⟨quiet,_⟩ | told
  · rw [quiet.sink] at told
    exact absurd told (Nat.lt_irrefl _)
  · obtain ⟨state,code,place,message,quiet,deviates,stands,later⟩ := told
    obtain ⟨notes,journal⟩ := later.journal
    obtain ⟨added,reports,_⟩ := later.reports
    refine ⟨state.tokens.index,sink.entry code place message,?_,?_,?_⟩
    · simp [firstReport?,← journal,report,quiet.journal,ofTokens]
    · rw [reports,report,Sink.toList_report,quiet.sink]
      simp [ofTokens,Sink.toList,Sink.size]
    · rw [Sink.place_entry]
      exact marks_of_deviates quiet deviates stands

-- The dot of a field is passed by before its name is missed.
theorem first_report_of_nameless_field :
    let tokens := [⟨.beginWord,⟨0,0⟩⟩,⟨.ident,⟨0,6⟩⟩,⟨.dot,⟨0,7⟩⟩,⟨.rparen,⟨0,9⟩⟩]
    0 < (ended tokens {}).sink.size ∧
      ∃ passed entry, (ended tokens {}).firstReport? = some passed ∧
        (ended tokens {}).sink.toList[0]? = some entry ∧ MarksDeviation tokens passed entry.place := by
  have told : 0 < (ended [⟨.beginWord,⟨0,0⟩⟩,⟨.ident,⟨0,6⟩⟩,⟨.dot,⟨0,7⟩⟩,⟨.rparen,⟨0,9⟩⟩] {}).sink.size := by
    cbv
  exact ⟨told,first_report_marks_deviation _ _ told⟩

end PascalCheck.Checker
