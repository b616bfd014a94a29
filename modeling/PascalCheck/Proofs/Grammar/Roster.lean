import PascalCheck.Proofs.Grammar.Account
import PascalCheck.Proofs.Grammar.Block
import PascalCheck.Proofs.Grammar.Row

namespace PascalCheck.Checker
open Grammar
open scoped Computability

inductive Roster where
  | vars
  | consts
  | fields
deriving DecidableEq, Repr

namespace Roster

def front : Roster → List TokenKind
  | .vars => [.varWord]
  | .consts => [.constWord]
  | .fields => [.varWord,.ident,.colon,.recordWord]

def back : Roster → List TokenKind
  | .vars => [.beginWord,.endWord,.dot]
  | .consts => [.beginWord,.endWord,.dot]
  | .fields => [.endWord,.semi,.beginWord,.endWord,.dot]

def phrase : Roster → Phrases
  | .vars => Grammar.names * one .colon * Grammar.typeSpec
  | .consts => one .ident * (one .eq * one .number)
  | .fields => Grammar.names * one .colon * standard

-- Kinds that a row may not have besides the stops: a record brings rows and an end of its own.
def barred : Roster → List TokenKind
  | .vars => [.recordWord]
  | .consts => []
  | .fields => []

def item : Roster → Checker → Checked
  | .vars => variableItem
  | .consts => constantItem
  | .fields => fieldItem

end Roster

variable {shape : Phrases} {barred kinds : List TokenKind} {construct : Checker → Checked}
  {step : Checker → Checker → Prop} {here there checker last : Checker} {front back : List Token} {rows : List Clause}

theorem straight_arrayType : Straight [.semi,.endWord] fun checker =>
    ((((((checker.need .lbracket).andThen (need .number)).andThen (need .dotdot)).andThen (need .number)).andThen
      (need .rbracket)).andThen (need .ofWord)).andThen (standardType Problem.standardType.code) := by
  have ends : [TokenKind.semi,.endWord] ⊆ [.semi,.endWord] := List.Subset.refl _
  have need : ∀ kind : TokenKind, kind ≠ .semi ∧ kind ≠ .endWord → Straight [.semi,.endWord] (need kind) :=
    fun _ other => straight_need (inner_of_ends ends other)
  have bounds := (((need .lbracket (by decide)).andThen (need .number (by decide))).andThen
    (need .dotdot (by decide))).andThen (need .number (by decide))
  have element := (bounds.andThen (need .rbracket (by decide))).andThen (need .ofWord (by decide))
  exact element.andThen (straight_standardType ends (by decide))

-- Without a record a type is an array or a standard one, and neither goes past a stop.
theorem alike_typeSpec (inStep : InStep [.semi,.endWord] step)
    (plain : ∀ {here there}, step here there → here.current ∉ [TokenKind.recordWord])
    (same : step here there) : Alike step here there here.typeSpec there.typeSpec := by
  have noRecord : here.current ≠ .recordWord := by simpa using plain same
  unfold typeSpec
  rw [← inStep.current same,if_neg noRecord,if_neg noRecord]
  by_cases listing : here.current = .arrayWord
  · rw [if_pos listing,if_pos listing]
    exact straight_arrayType.beyond inStep same (by simp [listing])
  · rw [if_neg listing,if_neg listing]
    exact (straight_standardType (List.Subset.refl _) (by decide)).alike inStep same

theorem reader_of_type (spares : TokenKind.semi ∉ barred) (reads : Reads shape [.semi] construct) (proceeds : Proceeds construct)
    (opens : Opens kinds shape)
    (alike : ∀ {step : Checker → Checker → Prop} {here there : Checker}, InStep [.semi,.endWord] step →
      (∀ {here there}, step here there → here.current ∉ barred) → step here there →
      Alike step here there (construct here) (construct there)) :
    RowReader (Grammar.names * one .colon * shape) barred
      (fun checker => ((checker.names.andThen (need .colon)).andThen construct).andThen (need .semi))
      (fun checker => (checker.furtherNames.andThen (need .colon)).andThen construct) := by
  constructor
  · exact spares
  · intro checker named
    rw [names_named (by simp [atName,named])]
  · intro checker named
    have naming : Reads (Grammar.names * one .colon) kinds fun checker => checker.names.andThen (need .colon) :=
      reads_names.needed (by decide)
    have meets := (naming.followed reads proceeds opens).meets (Opens.one .semi) (expects_onwards checker _)
    rwa [names_named (by simp [atName,named])] at meets
  · intro step here there inStep plain same
    have naming : Straight [.semi,.endWord] fun checker => checker.furtherNames.andThen (need .colon) :=
      (straight_furtherNames (List.Subset.refl _)).andThen (straight_need (by decide))
    exact (naming.alike inStep same).andThen fun between => alike inStep plain between

theorem reader_variable :
    RowReader (Grammar.names * one .colon * Grammar.typeSpec) [.recordWord] variableItem
      fun checker => (checker.furtherNames.andThen (need .colon)).andThen typeSpec :=
  reader_of_type (by decide) reads_typeSpec proceeds_typeSpec opens_typeSpec alike_typeSpec

theorem reader_field :
    RowReader (Grammar.names * one .colon * standard) [] fieldItem
      fun checker => (checker.furtherNames.andThen (need .colon)).andThen (standardType Problem.typeExpected.code) := by
  refine reader_of_type (by decide) (reads_standardType _) (proceeds_standardType _) opens_standard ?_
  intro step here there inStep _ same
  exact (straight_standardType (List.Subset.refl _) (by decide)).alike inStep same

theorem reader_constant :
    RowReader (one .ident * (one .eq * one .number)) [] constantItem
      fun checker => (checker.need .eq).andThen constantValue := by
  constructor
  · exact List.not_mem_nil
  · intro checker _
    rfl
  · intro checker named
    have parts : Reads (one .eq * one .number) [.semi] fun checker => (checker.need .eq).andThen constantValue :=
      (Reads.need (by decide)).followed reads_constantValue proceeds_constantValue (Opens.one _)
    exact parts.next_one (Opens.one .semi) (expects_onwards checker _) named (by decide)
  · intro step here there inStep _ same
    have parts : Straight [.semi,.endWord] fun checker => (checker.need .eq).andThen constantValue :=
      (straight_need (by decide)).andThen (straight_constantValue (List.Subset.refl _))
    exact parts.alike inStep same

theorem Roster.exists_reader (roster : Roster) : ∃ further, RowReader roster.phrase roster.barred roster.item further := by
  cases roster with
  | vars => exact ⟨_,reader_variable⟩
  | consts => exact ⟨_,reader_constant⟩
  | fields => exact ⟨_,reader_field⟩

theorem ended_of_declared {tokens : List Token} (opens : (ofTokens tokens {}).atSection = true)
    (declared : (ofTokens tokens {}).declarations = .finished last)
    (stands : last.tokens.rest.map Token.kind = [.beginWord,.endWord,.dot]) :
    (ended tokens {}).tokens.atEnd = true ∧ (ended tokens {}).notices = last.notices := by
  obtain ⟨⟨_,opening⟩,_,rests,rfl,closed⟩ := List.map_eq_cons_iff.mp stands
  obtain ⟨⟨_,closing⟩,_,rfl,rfl,dotted⟩ := List.map_eq_cons_iff.mp closed
  obtain ⟨⟨_,dot⟩,_,rfl,rfl,nothing⟩ := List.map_eq_cons_iff.mp dotted
  cases List.map_eq_nil_iff.mp nothing
  have begins : last.current = .beginWord := current_of_rest rests
  have onward : last.next.tokens.rest = [⟨.endWord,closing⟩,⟨.dot,dot⟩] := by rw [next_of_rest rests]
  have heading : (ofTokens tokens {}).heading = .finished (ofTokens tokens {}) := by
    rw [heading,if_neg]
    intro titled
    simp [atSection,titled] at opens
  have sections : (ofTokens tokens {}).sections = .finished last := by
    rw [sections,repeatWhile_round opens,declared,Outcome.andThen_finished,repeatWhile_done (by simp [atSection,begins])]
  have compound : last.body = last.next.compoundEnd := by
    rw [body,if_pos begins,compound,statements_done (by simp [current_of_rest onward]),Outcome.andThen_finished]
  have whole : ended tokens {} = (last.next.compoundEnd.andThen finalDot).after := by
    rw [ended,program,heading,Outcome.andThen_finished,sections,Outcome.andThen_finished,compound]
  rw [whole]
  exact ended_at_end onward

theorem names_alone {name colon : Token} {onward : List Token} (stands : checker.tokens.rest = name :: colon :: onward)
    (nameKind : name.kind = .ident) (colonKind : colon.kind = .colon) : checker.names = .finished checker.next := by
  have behind : checker.next.tokens.rest = colon :: onward := by rw [next_of_rest stands]
  rw [names_named (by simp [atName,current_of_rest stands,nameKind]),furtherNames]
  exact repeatWhile_done (by simp [atComma,current_of_rest behind,colonKind])

theorem typeSpec_of_rows {record ends : Token} {onward : List Token}
    (stands : checker.tokens.rest = record :: (rows.flatMap Clause.all ++ ends :: onward))
    (recordKind : record.kind = .recordWord) (endKind : ends.kind = .endWord)
    (proper : ∀ row ∈ rows, row.Row Roster.fields.barred) :
    ∃ last, checker.typeSpec = .finished last ∧ last.tokens.rest = onward ∧
      last.notices = checker.notices ++ rows.flatMap (toldOfRow fieldItem) := by
  have current : checker.current = .recordWord := (current_of_rest stands).trans recordKind
  have atRows : checker.next.tokens.rest = rows.flatMap Clause.all ++ ends :: onward := by rw [next_of_rest stands]
  have outside : (ends :: onward).head?.map Token.kind ≠ some .ident := by simp [endKind]
  obtain ⟨state,rounds,rests,notices⟩ := rounds_of_rows field_progress reader_field proper outside _ atRows
  refine ⟨state.next,?_,by rw [next_of_rest rests],notices⟩
  rw [typeSpec,if_neg (by simp [current]),if_pos current,recordType,fields,rounds,Outcome.andThen_finished,expect,
    if_pos ((current_of_rest rests).trans endKind)]

-- The rows of a record are one row of the variables.
theorem varSection_of_fields (stands : checker.tokens.rest = front ++ (rows.flatMap Clause.all ++ back))
    (before : front.map Token.kind = Roster.fields.front) (behind : back.map Token.kind = Roster.fields.back)
    (proper : ∀ row ∈ rows, row.Row Roster.fields.barred) :
    ∃ last, checker.varSection = .finished last ∧ last.tokens.rest.map Token.kind = [.beginWord,.endWord,.dot] ∧
      last.notices = checker.notices ++ rows.flatMap (toldOfRow fieldItem) := by
  obtain ⟨word,_,rfl,_,naming⟩ := List.map_eq_cons_iff.mp before
  obtain ⟨name,_,rfl,nameKind,parting⟩ := List.map_eq_cons_iff.mp naming
  obtain ⟨colon,_,rfl,colonKind,grouping⟩ := List.map_eq_cons_iff.mp parting
  obtain ⟨record,_,rfl,recordKind,nothing⟩ := List.map_eq_cons_iff.mp grouping
  cases List.map_eq_nil_iff.mp nothing
  obtain ⟨ends,_,rfl,endKind,marking⟩ := List.map_eq_cons_iff.mp behind
  obtain ⟨mark,onward,rfl,markKind,rest⟩ := List.map_eq_cons_iff.mp marking
  have atName : checker.next.tokens.rest = name :: colon :: record :: (rows.flatMap Clause.all ++ ends :: mark :: onward) := by
    rw [next_of_rest stands]; rfl
  have atColon : checker.next.next.tokens.rest = colon :: record :: (rows.flatMap Clause.all ++ ends :: mark :: onward) := by
    rw [next_of_rest atName]
  have atRecord : checker.next.next.next.tokens.rest = record :: (rows.flatMap Clause.all ++ ends :: mark :: onward) := by
    rw [next_of_rest atColon]
  obtain ⟨state,grouped,atMark,notices⟩ := typeSpec_of_rows atRecord recordKind endKind proper
  have atBody : state.next.tokens.rest = onward := by rw [next_of_rest atMark]
  have item : variableItem checker.next = .finished state.next := by
    rw [variableItem,names_alone atName nameKind colonKind,Outcome.andThen_finished,
      need_met ((current_of_rest atColon).trans colonKind),Outcome.andThen_finished,grouped,Outcome.andThen_finished,
      need_met ((current_of_rest atMark).trans markKind)]
  have begins : state.next.current = .beginWord := by
    obtain ⟨token,_,same,kind,_⟩ := List.map_eq_cons_iff.mp rest
    exact (current_of_rest (atBody.trans same)).trans kind
  refine ⟨state.next,?_,by rw [atBody,rest],notices⟩
  rw [varSection,repeatWhile_round (by simp [Checker.atName,current_of_rest atName,nameKind]),recover,item,
    Outcome.andThen_finished,repeatWhile_done (by simp [Checker.atName,begins])]

theorem rounds_of_section {phrase : Phrases} {item further : Checker → Checked} {word : TokenKind}
    (progress : ∀ checker, checker.atName = true → (recover item checker).after.left < checker.left)
    (reader : RowReader phrase barred item further) (stands : checker.tokens.rest = front ++ (rows.flatMap Clause.all ++ back))
    (before : front.map Token.kind = [word]) (proper : ∀ row ∈ rows, row.Row barred)
    (outside : back.head?.map Token.kind ≠ some .ident) :
    checker.current = word ∧ ∃ last, repeatWhile atName (recover item) progress checker.next = .finished last ∧
      last.tokens.rest = back ∧ last.notices = checker.notices ++ rows.flatMap (toldOfRow item) := by
  obtain ⟨token,_,rfl,kind,nothing⟩ := List.map_eq_cons_iff.mp before
  cases List.map_eq_nil_iff.mp nothing
  have start : checker.next.tokens.rest = rows.flatMap Clause.all ++ back := by rw [next_of_rest stands]; rfl
  exact ⟨(current_of_rest stands).trans kind,rounds_of_rows progress reader proper outside _ start⟩

theorem declared_of_roster {roster : Roster} (stands : checker.tokens.rest = front ++ (rows.flatMap Clause.all ++ back))
    (before : front.map Token.kind = roster.front) (behind : back.map Token.kind = roster.back)
    (proper : ∀ row ∈ rows, row.Row roster.barred) :
    checker.atSection = true ∧ ∃ last, checker.declarations = .finished last ∧
      last.tokens.rest.map Token.kind = [.beginWord,.endWord,.dot] ∧
      last.notices = checker.notices ++ rows.flatMap (toldOfRow roster.item) := by
  have outside : back.head?.map Token.kind ≠ some .ident := by
    rw [← List.head?_map,behind]
    cases roster <;> decide
  cases roster with
  | vars =>
    obtain ⟨current,last,rounds,rests,notices⟩ :=
      rounds_of_section variable_progress reader_variable stands before proper outside
    refine ⟨by simp [atSection,current],last,?_,by rw [rests]; exact behind,notices⟩
    rw [declarations,if_pos current,varSection,rounds]
  | consts =>
    obtain ⟨current,last,rounds,rests,notices⟩ :=
      rounds_of_section constant_progress reader_constant stands before proper outside
    refine ⟨by simp [atSection,current],last,?_,by rw [rests]; exact behind,notices⟩
    rw [declarations,if_neg (by simp [current]),constSection,rounds]
  | fields =>
    obtain ⟨last,declared,rests,notices⟩ := varSection_of_fields stands before behind proper
    obtain ⟨word,_,rfl,kind,_⟩ := List.map_eq_cons_iff.mp before
    have current : checker.current = .varWord := (current_of_rest stands).trans kind
    refine ⟨by simp [atSection,current],last,?_,rests,notices⟩
    rw [declarations,if_pos current,declared]

def enclosed (front : List Token) (rows : List Clause) (back : List Token) : List Token :=
  front ++ (rows.flatMap Clause.all ++ back)

theorem ended_of_roster {roster : Roster} (before : front.map Token.kind = roster.front)
    (behind : back.map Token.kind = roster.back) (proper : ∀ row ∈ rows, row.Row roster.barred) :
    (ended (enclosed front rows back) {}).tokens.atEnd = true ∧
      (ended (enclosed front rows back) {}).notices = rows.flatMap (toldOfRow roster.item) := by
  have start : (ofTokens (enclosed front rows back) {}).tokens.rest = front ++ (rows.flatMap Clause.all ++ back) := rfl
  obtain ⟨opens,last,declared,stands,notices⟩ := declared_of_roster start before behind proper
  obtain ⟨atEnd,told⟩ := ended_of_declared opens declared stands
  exact ⟨atEnd,told.trans notices⟩

-- Each row is told of as in a program with this row only, once at most, and not at all if it is right.
theorem rows_told_alone (roster : Roster) (front back : List Token) (rows : List Clause)
    (before : front.map Token.kind = roster.front) (behind : back.map Token.kind = roster.back)
    (proper : ∀ row ∈ rows, row.Row roster.barred) :
    (ofTokens (enclosed front rows back) {}).program = .finished (ended (enclosed front rows back) {}) ∧
      (ended (enclosed front rows back) {}).tokens.atEnd = true ∧
      (∀ notice ∈ (ended (enclosed front rows back) {}).notices, notice.code ∉ closing) ∧
      (ended (enclosed front rows back) {}).notices =
        rows.flatMap (fun row => (ended (enclosed front [row] back) {}).notices) ∧
      ∀ row ∈ rows, (ended (enclosed front [row] back) {}).notices.length ≤ 1 ∧
        ((ended (enclosed front [row] back) {}).notices = [] ↔ row.kinds ∈ roster.phrase) ∧
        ∀ notice ∈ (ended (enclosed front [row] back) {}).notices, notice.place ∈ row.places := by
  obtain ⟨further,reader⟩ := roster.exists_reader
  have verdict : ∀ row ∈ rows, RowVerdict roster.phrase row (toldOfRow roster.item row) :=
    fun row member => verdict_of_row (proper row member) reader
  have alone : ∀ row ∈ rows, (ended (enclosed front [row] back) {}).notices = toldOfRow roster.item row := by
    intro row member
    rw [(ended_of_roster before behind (by simpa using proper row member)).2,List.flatMap_singleton]
  obtain ⟨atEnd,notices⟩ := ended_of_roster before behind proper
  refine ⟨finishes_program _,atEnd,?_,?_,?_⟩
  · intro notice told
    rw [notices] at told
    obtain ⟨row,member,told⟩ := List.mem_flatMap.mp told
    exact ((verdict row member).mismatch notice told).1
  · rw [notices]
    exact List.flatMap_congr fun row member => (alone row member).symm
  · intro row member
    rw [alone row member]
    obtain ⟨once,clean,mismatch⟩ := verdict row member
    exact ⟨once,clean,fun notice told => (mismatch notice told).2⟩

theorem rows_told_alone_of_fields :
    let front : List Token := [⟨.varWord,⟨0,0⟩⟩,⟨.ident,⟨0,4⟩⟩,⟨.colon,⟨0,5⟩⟩,⟨.recordWord,⟨0,7⟩⟩]
    let back : List Token :=
      [⟨.endWord,⟨5,0⟩⟩,⟨.semi,⟨5,3⟩⟩,⟨.beginWord,⟨6,0⟩⟩,⟨.endWord,⟨6,6⟩⟩,⟨.dot,⟨6,9⟩⟩]
    let rows : List Clause := [
      ⟨[⟨.ident,⟨1,0⟩⟩,⟨.comma,⟨1,1⟩⟩,⟨.ident,⟨1,2⟩⟩,⟨.colon,⟨1,3⟩⟩,⟨.integerWord,⟨1,4⟩⟩],⟨.semi,⟨1,11⟩⟩⟩,
      ⟨[⟨.ident,⟨2,0⟩⟩,⟨.colon,⟨2,1⟩⟩,⟨.beginWord,⟨2,3⟩⟩,⟨.varWord,⟨2,9⟩⟩,⟨.eof,⟨2,13⟩⟩],⟨.semi,⟨2,14⟩⟩⟩,
      ⟨[⟨.ident,⟨3,0⟩⟩,⟨.colon,⟨3,1⟩⟩],⟨.semi,⟨3,2⟩⟩⟩,
      ⟨[⟨.ident,⟨4,0⟩⟩,⟨.colon,⟨4,1⟩⟩,⟨.ident,⟨4,3⟩⟩],⟨.semi,⟨4,4⟩⟩⟩]
    front.map Token.kind = Roster.fields.front ∧ back.map Token.kind = Roster.fields.back ∧
      (∀ row ∈ rows, row.Row Roster.fields.barred) ∧ (ended (enclosed front rows back) {}).tokens.atEnd = true ∧
      (ended (enclosed front rows back) {}).notices =
        rows.flatMap (fun row => (ended (enclosed front [row] back) {}).notices) ∧
      (ended (enclosed front rows back) {}).notices =
        [⟨405,⟨2,3⟩,"type expected"⟩,⟨405,⟨3,2⟩,"type expected"⟩] := by
  intro front back rows
  have proper : ∀ row ∈ rows, row.Row Roster.fields.barred := by
    intro row member
    simp only [rows,List.mem_cons,List.not_mem_nil,or_false] at member
    rcases member with rfl | rfl | rfl | rfl
    · exact ⟨rfl,rfl,by decide⟩
    · exact ⟨rfl,rfl,by decide⟩
    · exact ⟨rfl,rfl,by decide⟩
    · exact ⟨rfl,rfl,by decide⟩
  have told : (ended (enclosed front rows back) {}).notices =
      [⟨405,⟨2,3⟩,"type expected"⟩,⟨405,⟨3,2⟩,"type expected"⟩] := by
    have before : front.map Token.kind = Roster.fields.front := rfl
    rw [(ended_of_roster before rfl proper).2]
    cbv
  obtain ⟨_,atEnd,_,parts,_⟩ := rows_told_alone .fields front back rows rfl rfl proper
  exact ⟨rfl,rfl,proper,atEnd,parts,told⟩

end PascalCheck.Checker
