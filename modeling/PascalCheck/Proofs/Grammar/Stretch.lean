import PascalCheck.Proofs.Grammar.Calls
import PascalCheck.Proofs.Grammar.Roster

namespace PascalCheck.Checker
open Grammar
open scoped Computability

-- What is read in one go, without a list of items that deals with mismatches. The kind eof is never asked for: the end
-- of the tokens has it as well, and there is nothing to take there.
inductive Stretch where
  | expect (kind : TokenKind) (stored : kind ≠ .eof) (code : Int) (message : Option String)
  | standardType (code : Int)
  | names | arrayType | statement | arguments | argument | expression | term

namespace Stretch

def call : Stretch → Call
  | .expect kind _ code message => .expect kind code message
  | .standardType code => .standardType code
  | .names => .names
  | .arrayType => .arrayType
  | .statement => .statement
  | .arguments => .arguments
  | .argument => .argument
  | .expression => .expression
  | .term => .term

-- The phrases to read where the next token is of some kind. In front of the kinds that end them, a statement and the
-- arguments of a call may be left out.
def phrases (next : TokenKind) : Stretch → Phrases
  | .expect kind _ _ _ => one kind
  | .standardType _ => standard
  | .names => Grammar.names
  | .arrayType => array
  | .statement => if next = .semi ∨ next = .endWord then optional Grammar.statement else Grammar.statement
  | .arguments => if next = .rparen then Grammar.arguments else Grammar.argument * (one .comma * Grammar.argument)∗
  | .argument => Grammar.argument
  | .expression => Grammar.expression
  | .term => Grammar.term

def MayFollow : Stretch → TokenKind → Prop
  | .names,kind => kind = .colon
  | .statement,kind => kind = .semi ∨ kind = .endWord
  | .arguments,kind => kind = .rparen
  | .argument,kind => kind ∉ [TokenKind.plus,.minus,.star,.slash]
  | .expression,kind => kind ∉ [TokenKind.plus,.minus,.star,.slash]
  | _,_ => True

end Stretch

structure OneReport (earlier later : Checker) : Prop where
  tokens : later.tokens.toList = earlier.tokens.toList
  index : earlier.tokens.index ≤ later.tokens.index
  told : ∃ entry, later.sink.toList = earlier.sink.toList ++ [entry] ∧
    (entry.place = later.tokens.lastPosition ∨ entry.place = later.tokens.currentPosition)

-- How a call ends that is to read one of some phrases.
def Serves (phrases : Phrases) (follows : TokenKind → Prop) (checker : Checker) : Checked → Prop
  | .finished state => Quiet checker state ∧ ∃ taken ∈ phrases, checker.ahead = taken ++ state.ahead
  | .stopped _ state => OneReport checker state ∧
      ∀ kind, follows kind → ∀ phrase ∈ phrases, ¬ phrase ++ [kind] <+: checker.ahead

def TellsOnce (checker : Checker) : Checked → Prop
  | .finished state => Quiet checker state
  | .stopped _ state => OneReport checker state

variable {phrases : Phrases} {follows : TokenKind → Prop} {checker between state : Checker} {outcome : Checked}
  {construct : Checker → Checked} {stops : List TokenKind}

theorem oneReport_of_quiet {place : Position} (quiet : Quiet checker state)
    (stands : place = state.tokens.lastPosition ∨ place = state.tokens.currentPosition) (code : Int)
    (message : Option String) : OneReport checker (state.report code place message) := by
  refine ⟨quiet.tokens,quiet.index,state.sink.entry code place message,?_,?_⟩
  · rw [report,Sink.toList_report,quiet.sink]
  · rwa [Sink.place_entry]

theorem tellsOnce_of_once (once : Once checker outcome) : TellsOnce checker outcome := by
  rcases once with ⟨state,rfl,quiet⟩ | ⟨state,code,place,message,rfl,quiet,_,stands⟩
  · exact quiet
  · exact oneReport_of_quiet quiet stands code message

theorem TellsOnce.earlier (tells : TellsOnce between outcome) (quiet : Quiet checker between) :
    TellsOnce checker outcome := by
  cases outcome with
  | finished state => exact quiet.trans tells
  | stopped cause state =>
    obtain ⟨tokens,index,entry,told,stands⟩ := tells
    rw [quiet.sink] at told
    exact ⟨tokens.trans quiet.tokens,Nat.le_trans quiet.index index,entry,told,stands⟩

theorem tellsOnce_straight (straight : Straight stops construct) (checker : Checker) :
    TellsOnce checker (construct checker) := tellsOnce_of_once (straight.once checker)

-- Any code may be asked for here, also one after which a whole check would go on.
theorem tellsOnce_expect (kind : TokenKind) (code : Int) (message : Option String) (checker : Checker) :
    TellsOnce checker (checker.expect kind code message) := by
  unfold expect
  split
  · exact quiet_next checker
  · exact oneReport_of_quiet (Quiet.refl _) (Or.inl rfl) _ _

theorem tellsOnce_standardType (code : Int) (checker : Checker) : TellsOnce checker (checker.standardType code) := by
  unfold standardType
  split
  · exact quiet_next checker
  · exact oneReport_of_quiet (Quiet.refl _) (Or.inr rfl) _ _

theorem tellsOnce_arrayType (checker : Checker) : TellsOnce checker checker.arrayType :=
  (tellsOnce_straight straight_arrayType checker.next).earlier (quiet_next checker)

theorem tellsOnce_names (checker : Checker) : TellsOnce checker checker.names := by
  have need : Straight [] (need .ident) := straight_need List.not_mem_nil
  exact tellsOnce_straight (need.andThen (straight_furtherNames (List.nil_subset _))) checker

theorem tellsOnce_statement (checker : Checker) : TellsOnce checker checker.statement := by
  by_cases past : checker.current = .semi ∨ checker.current = .endWord
  · rw [statement,if_pos past]
    exact Quiet.refl checker
  by_cases subject : checker.current = .ident ∨ checker.current = .writelnWord
  · rw [statement_of_subject subject]
    exact (tellsOnce_straight (straight_subject (List.nil_subset _)) checker.next).earlier (quiet_next checker)
  · rw [statement_of_stranger past subject]
    exact oneReport_of_quiet (Quiet.refl _) (Or.inr rfl) _ _

theorem ahead_of_behind {taken : List TokenKind} (quiet : Quiet checker state)
    (passed : state.behind = checker.behind ++ taken) : checker.ahead = taken ++ state.ahead := by
  have run : state.behind ++ state.ahead = checker.behind ++ checker.ahead := by
    rw [behind_ahead,behind_ahead,quiet.tokens]
  rw [passed,List.append_assoc] at run
  exact (List.append_cancel_left run).symm

-- What is known of the reports, and of the phrase in front of each kind that may follow it, put together.
theorem serves_of_meets (once : TellsOnce checker outcome) (some : ∃ kind, follows kind)
    (meets : ∀ kind, follows kind → Meets (checker.onwards (phrases * one kind)) checker
      (Expects (checker.onwards (phrases * one kind)) · (one kind)) outcome) :
    Serves phrases follows checker outcome := by
  cases outcome with
  | finished state =>
    obtain ⟨kind,may⟩ := some
    rcases meets kind may with ⟨_,expects⟩ | told
    · obtain ⟨taken,member,passed⟩ := taken_of_expects expects
      exact ⟨once,taken,member,ahead_of_behind once passed⟩
    · have more := size_of_told told
      rw [once.sink] at more
      exact absurd more (Nat.lt_irrefl _)
  | stopped cause state =>
    refine ⟨once,fun kind may => ?_⟩
    obtain ⟨between,_,_,_,quiet,deviates,_⟩ := meets kind may
    exact no_front_of_deviates quiet deviates

theorem serves_of_reads (once : TellsOnce checker (construct checker)) (some : ∃ kind, follows kind)
    (reads : ∀ kind, follows kind → Reads phrases [kind] construct) :
    Serves phrases follows checker (construct checker) :=
  serves_of_meets once some fun kind may => (reads kind may).meets (Opens.one kind) (expects_onwards checker _)

theorem serves_statement (checker : Checker) :
    Serves (Stretch.statement.phrases checker.current) Stretch.statement.MayFollow checker checker.statement := by
  by_cases past : checker.current = .semi ∨ checker.current = .endWord
  · rw [Stretch.phrases,if_pos past,statement,if_pos past]
    exact ⟨Quiet.refl _,[],Or.inl rfl,rfl⟩
  · rw [Stretch.phrases,if_neg past]
    refine serves_of_meets (tellsOnce_statement checker) ⟨.semi,Or.inl rfl⟩ fun kind may => ?_
    have ends : kind ∈ [TokenKind.semi,.endWord] := List.mem_pair.mpr may
    have opens : Opens [.semi,.endWord] (one kind) := (Opens.one kind).mono (by simpa using ends)
    exact meets_begunStatement opens (expects_onwards checker _) past

theorem serves_arguments (checker : Checker) :
    Serves (Stretch.arguments.phrases checker.current) Stretch.arguments.MayFollow checker checker.arguments := by
  by_cases none : checker.current = .rparen
  · rw [Stretch.phrases,if_pos none,arguments,if_pos none]
    exact ⟨Quiet.refl _,[],Or.inl rfl,rfl⟩
  · rw [Stretch.phrases,if_neg none,arguments,if_neg none]
    have list := (straight_argument (List.nil_subset _)).andThen (straight_furtherArguments (List.nil_subset _))
    refine serves_of_meets (tellsOnce_straight list checker) ⟨.rparen,rfl⟩ ?_
    rintro kind rfl
    exact reads_argumentList.meets (Opens.one _) (expects_onwards checker _)

theorem serves_arrayType (here : checker.current = .arrayWord) :
    Serves array (fun _ => True) checker checker.arrayType :=
  serves_of_meets (tellsOnce_arrayType checker) ⟨.eof,trivial⟩
    fun kind _ => meets_arrayType (Opens.one kind) (expects_onwards checker _) here

-- Whatever has been passed and reported before, and wherever the check stands.
theorem stretches_tell_once (stretch : Stretch) (checker : Checker)
    (opens : stretch = .arrayType → checker.current = .arrayWord) :
    Serves (stretch.phrases checker.current) stretch.MayFollow checker (stretch.call.run checker) := by
  have apart : ∀ kind ∉ [TokenKind.plus,.minus,.star,.slash], ∀ follower ∈ [kind],
      follower ∉ [TokenKind.plus,.minus,.star,.slash] := by simp
  have outside : TokenKind.semi ∉ [TokenKind.plus,.minus,.star,.slash] := by decide
  cases stretch with
  | expect kind stored code message =>
    exact serves_of_reads (tellsOnce_expect kind code message checker) ⟨.eof,trivial⟩
      fun _ _ => Reads.expect stored code message
  | standardType code =>
    exact serves_of_reads (tellsOnce_standardType code checker) ⟨.eof,trivial⟩ fun _ _ => reads_standardType code
  | names =>
    refine serves_of_reads (tellsOnce_names checker) ⟨.colon,rfl⟩ ?_
    rintro kind rfl
    exact reads_names
  | arrayType => exact serves_arrayType (opens rfl)
  | statement => exact serves_statement checker
  | arguments => exact serves_arguments checker
  | argument =>
    exact serves_of_reads (tellsOnce_straight (straight_argument (List.nil_subset _)) checker) ⟨.semi,outside⟩
      fun kind may => reads_argument (apart kind may)
  | expression =>
    exact serves_of_reads (tellsOnce_straight (straight_expression (List.nil_subset _)) checker) ⟨.semi,outside⟩
      fun kind may => reads_expression (apart kind may)
  | term =>
    exact serves_of_reads (tellsOnce_straight (straight_term (List.nil_subset _)) checker) ⟨.eof,trivial⟩
      fun _ _ => reads_term

theorem stretch_of_open_array :
    let checker : Checker := {
      tokens := ⟨[⟨.colon,⟨1,2⟩⟩,⟨.ident,⟨1,1⟩⟩],
        [⟨.arrayWord,⟨1,4⟩⟩,⟨.lbracket,⟨1,10⟩⟩,⟨.number,⟨1,11⟩⟩,⟨.dotdot,⟨1,12⟩⟩,⟨.rbracket,⟨1,14⟩⟩]⟩ }
    (Stretch.arrayType = .arrayType → checker.current = .arrayWord) ∧
      Serves (Stretch.arrayType.phrases checker.current) Stretch.arrayType.MayFollow checker
        (Stretch.arrayType.call.run checker) := by
  intro checker
  have opens : Stretch.arrayType = .arrayType → checker.current = .arrayWord := fun _ => rfl
  exact ⟨opens,stretches_tell_once .arrayType checker opens⟩

end PascalCheck.Checker
