import PascalCheck.Proofs.Grammar.Flow

namespace PascalCheck.Checker

structure Turn where
  loop : Loop
  first : Nat
  last : Nat

namespace Flow

-- What is done in which order. A loop looks again after each round, and nothing here says that it
-- ever finds its end.
inductive Executes : Flow → Checker → List Turn → Checked → Prop where
  | act (deed : Act) (checker : Checker) : Executes (.act deed) checker [] (deed.run checker)
  | seqFinished (here : Executes first checker early (.finished state)) (there : Executes second state late outcome) :
      Executes (.seq first second) checker (early ++ late) outcome
  | seqStopped (here : Executes first checker turns (.stopped cause state)) :
      Executes (.seq first second) checker turns (.stopped cause state)
  | chooseFirst {test : Checker → Prop} [DecidablePred test] (holds : test checker)
      (here : Executes first checker turns outcome) : Executes (.choose test first second) checker turns outcome
  | chooseSecond {test : Checker → Prop} [DecidablePred test] (fails : ¬ test checker)
      (here : Executes second checker turns outcome) : Executes (.choose test first second) checker turns outcome
  | loopDone (done : rounds.again checker = false) : Executes (.loop rounds) checker [] (.finished checker)
  | loopFinished {rounds : Loop} (more : rounds.again checker = true)
      (here : Executes rounds.flow checker turns (.finished state))
      (onward : Executes (.loop rounds) state later outcome) :
      Executes (.loop rounds) checker (turns ++ ⟨rounds,checker.tokens.index,state.tokens.index⟩ :: later) outcome
  | loopStopped {rounds : Loop} (more : rounds.again checker = true)
      (here : Executes rounds.flow checker turns (.stopped cause state)) :
      Executes (.loop rounds) checker (turns ++ [⟨rounds,checker.tokens.index,state.tokens.index⟩])
        (.stopped cause state)
  | synchronize (skips : Executes (.loop (.skipping stop)) checker turns (.finished rested)) :
      Executes (.synchronize stop) checker turns
        (.finished (rested.land (rested.tokens.index - checker.tokens.index)))
  | recoverFinished (here : Executes construct checker turns (.finished state)) :
      Executes (.recover construct) checker turns (.finished state)
  | recoverStopped (here : Executes construct checker early (.stopped cause state))
      (resumes : Executes (.synchronize isStop) state late outcome) :
      Executes (.recover construct) checker (early ++ late) outcome

-- Whenever an end is reached, it is the one that the construct as a function has.
theorem Executes.outcome_eq {flow : Flow} (executed : Executes flow checker turns outcome) :
    outcome = flow.run checker := by
  induction executed with
  | act deed checker => rfl
  | seqFinished _ _ here there => rw [run,← here,Outcome.andThen_finished]; exact there
  | seqStopped _ here => rw [run,← here,Outcome.andThen_stopped]
  | chooseFirst holds _ here => rw [run,if_pos holds]; exact here
  | chooseSecond fails _ here => rw [run,if_neg fails]; exact here
  | loopDone done => exact (repeatWhile_done done).symm
  | loopFinished more _ _ here onward =>
    rw [Loop.run_flow] at here
    rw [run,Loop.run,repeatWhile_round more,← here,Outcome.andThen_finished]
    exact onward
  | loopStopped more _ here =>
    rw [Loop.run_flow] at here
    rw [run,Loop.run,repeatWhile_round more,← here,Outcome.andThen_stopped]
  | synchronize _ skips =>
    rw [run] at skips
    rw [run,resume,← skips,Outcome.andThen_finished]
  | recoverFinished _ here => rw [run,← here]
  | recoverStopped _ _ here resumes => rw [run,← here]; exact resumes

def Below (bound : Nat) : Flow → Prop
  | .act _ => True
  | .seq first second => first.Below bound ∧ second.Below bound
  | @choose _ _ first second => first.Below bound ∧ second.Below bound
  | .loop rounds => rounds.rank < bound
  | .synchronize _ => 0 < bound
  | .recover construct => construct.Below bound ∧ 0 < bound

instance decidableBelow (bound : Nat) : (flow : Flow) → Decidable (flow.Below bound)
  | .act _ => inferInstanceAs (Decidable True)
  | .seq first second => @instDecidableAnd _ _ (decidableBelow bound first) (decidableBelow bound second)
  | @choose _ _ first second => @instDecidableAnd _ _ (decidableBelow bound first) (decidableBelow bound second)
  | .loop rounds => inferInstanceAs (Decidable (rounds.rank < bound))
  | .synchronize _ => inferInstanceAs (Decidable (0 < bound))
  | .recover construct => @instDecidableAnd _ _ (decidableBelow bound construct) (Nat.decLt 0 bound)

end Flow

theorem Loop.below_flow (loop : Loop) : loop.flow.Below loop.rank := by
  cases loop with
  | skipping stop => trivial
  | _ => decide

theorem Flow.below_nine (flow : Flow) : flow.Below 9 := by
  induction flow with
  | act deed => trivial
  | seq first second here there => exact ⟨here,there⟩
  | choose test first second here there => exact ⟨here,there⟩
  | loop rounds =>
    show rounds.rank < 9
    cases rounds with
    | skipping stop => exact Nat.succ_pos 8
    | _ => decide
  | synchronize stop => exact Nat.succ_pos 8
  | recover construct here => exact ⟨here,Nat.succ_pos 8⟩

namespace Flow

def Terminates (flow : Flow) : Prop := ∀ checker, ∃ turns, flow.Executes checker turns (flow.run checker)

-- A loop whose rounds come to an end does so itself: each round leaves fewer tokens for the others.
theorem terminates_loop {rounds : Loop} (inner : rounds.flow.Terminates) (checker : Checker) :
    ∃ turns, (loop rounds).Executes checker turns ((loop rounds).run checker) := by
  by_cases more : rounds.again checker = true
  · obtain ⟨turns,made⟩ := inner checker
    have shorter := rounds.left_round_lt checker more
    rw [Loop.run_flow] at made
    rw [run,Loop.run,repeatWhile_round more]
    cases ended : rounds.round checker with
    | finished state =>
      rw [ended] at made shorter
      obtain ⟨later,onward⟩ := terminates_loop inner state
      exact ⟨_,.loopFinished more made onward⟩
    | stopped cause state =>
      rw [ended] at made
      exact ⟨_,.loopStopped more made⟩
  · rw [run,Loop.run,repeatWhile_done (by simpa using more)]
    exact ⟨[],.loopDone (by simpa using more)⟩
termination_by checker.left
decreasing_by
  rwa [ended] at shorter

theorem terminates_synchronize (stop : TokenKind → Bool) (skips : (loop (.skipping stop)).Terminates) :
    (synchronize stop).Terminates := by
  intro checker
  obtain ⟨turns,skipped⟩ := skips checker
  rw [run,run_skipping] at skipped
  rw [run,resume,run_skipping,Outcome.andThen_finished]
  exact ⟨turns,.synchronize skipped⟩

theorem terminates_seq {first second : Flow} (here : first.Terminates) (there : second.Terminates) :
    (first.seq second).Terminates := by
  intro checker
  obtain ⟨early,made⟩ := here checker
  rw [run]
  cases ended : first.run checker with
  | finished state =>
    rw [ended] at made
    obtain ⟨late,onward⟩ := there state
    exact ⟨early ++ late,.seqFinished made onward⟩
  | stopped cause state =>
    rw [ended] at made
    exact ⟨early,.seqStopped made⟩

theorem terminates_recover {construct : Flow} (here : construct.Terminates)
    (resumes : (synchronize isStop).Terminates) : (recover construct).Terminates := by
  intro checker
  obtain ⟨early,made⟩ := here checker
  rw [run]
  cases ended : construct.run checker with
  | finished state =>
    rw [ended] at made
    exact ⟨early,.recoverFinished made⟩
  | stopped cause state =>
    rw [ended] at made
    obtain ⟨late,onward⟩ := resumes state
    exact ⟨early ++ late,.recoverStopped made onward⟩

theorem terminates_of_loops {bound : Nat} (loops : ∀ rounds : Loop, rounds.rank < bound → (loop rounds).Terminates)
    {flow : Flow} (below : flow.Below bound) : flow.Terminates := by
  have resumes : 0 < bound → ∀ stop, (synchronize stop).Terminates :=
    fun some stop => terminates_synchronize stop (loops (.skipping stop) some)
  induction flow with
  | act deed => exact fun checker => ⟨[],.act deed checker⟩
  | seq first second here there => exact terminates_seq (here below.1) (there below.2)
  | choose test first second here there =>
    intro checker
    by_cases holds : test checker
    · obtain ⟨turns,made⟩ := here below.1 checker
      rw [run,if_pos holds]
      exact ⟨turns,.chooseFirst holds made⟩
    · obtain ⟨turns,made⟩ := there below.2 checker
      rw [run,if_neg holds]
      exact ⟨turns,.chooseSecond holds made⟩
  | loop rounds => exact loops rounds below
  | synchronize stop => exact resumes below stop
  | recover construct here => exact terminates_recover (here below.1) (resumes below.2 isStop)

-- By induction on the rank: the loops that a round runs are of lower ones.
theorem terminates_loops (bound : Nat) (rounds : Loop) (lower : rounds.rank < bound) : (loop rounds).Terminates := by
  induction bound generalizing rounds with
  | zero => exact absurd lower (Nat.not_lt_zero _)
  | succ bound ih =>
    exact terminates_loop (terminates_of_loops (fun inner less => ih inner (by omega)) rounds.below_flow)

theorem terminates (flow : Flow) : flow.Terminates := terminates_of_loops (terminates_loops 9) flow.below_nine

end Flow

namespace Flow.Executes
variable {flow : Flow} {checker : Checker} {turns : List Turn} {outcome : Checked}

theorem index_le (executed : flow.Executes checker turns outcome) :
    checker.tokens.index ≤ outcome.after.tokens.index := by
  rw [executed.outcome_eq]
  exact (flow.proceeds_run checker).index

theorem round_lt {loop : Loop} (more : loop.again checker = true) (round : loop.flow.Executes checker turns outcome) :
    checker.tokens.index < outcome.after.tokens.index := by
  rw [round.outcome_eq,Loop.run_flow]
  exact loop.index_round_lt checker more

theorem moves (executed : flow.Executes checker turns outcome) : ∀ turn ∈ turns, turn.first < turn.last := by
  induction executed with
  | act deed checker => exact List.forall_mem_nil _
  | seqFinished _ _ here there => exact List.forall_mem_append.mpr ⟨here,there⟩
  | seqStopped _ here => exact here
  | chooseFirst _ _ here => exact here
  | chooseSecond _ _ here => exact here
  | loopDone _ => exact List.forall_mem_nil _
  | loopFinished more round _ here onward =>
    exact List.forall_mem_append.mpr ⟨here,List.forall_mem_cons.mpr ⟨round.round_lt more,onward⟩⟩
  | loopStopped more round here =>
    exact List.forall_mem_append.mpr ⟨here,List.forall_mem_singleton.mpr (round.round_lt more)⟩
  | synchronize _ skips => exact skips
  | recoverFinished _ here => exact here
  | recoverStopped _ _ here resumes => exact List.forall_mem_append.mpr ⟨here,resumes⟩

theorem rank_lt {bound : Nat} (executed : flow.Executes checker turns outcome) (below : flow.Below bound) :
    ∀ turn ∈ turns, turn.loop.rank < bound := by
  induction executed generalizing bound with
  | act deed checker => exact List.forall_mem_nil _
  | seqFinished _ _ here there => exact List.forall_mem_append.mpr ⟨here below.1,there below.2⟩
  | seqStopped _ here => exact here below.1
  | chooseFirst _ _ here => exact here below.1
  | chooseSecond _ _ here => exact here below.2
  | loopDone _ => exact List.forall_mem_nil _
  | @loopFinished _ _ _ _ _ rounds _ _ _ here onward =>
    have inside := fun turn member => Nat.lt_trans (here rounds.below_flow turn member) below
    exact List.forall_mem_append.mpr ⟨inside,List.forall_mem_cons.mpr ⟨below,onward below⟩⟩
  | @loopStopped _ _ _ _ rounds _ _ here =>
    have inside := fun turn member => Nat.lt_trans (here rounds.below_flow turn member) below
    exact List.forall_mem_append.mpr ⟨inside,List.forall_mem_singleton.mpr below⟩
  | synchronize _ skips => exact skips below
  | recoverFinished _ here => exact here below.1
  | recoverStopped _ _ here resumes => exact List.forall_mem_append.mpr ⟨here below.1,resumes below.2⟩

end Flow.Executes

def roundsOf (loop : Loop) (turns : List Turn) : Nat := turns.countP fun turn => turn.loop.rank = loop.rank

theorem roundsOf_append (loop : Loop) (early late : List Turn) :
    roundsOf loop (early ++ late) = roundsOf loop early + roundsOf loop late := List.countP_append

-- While a round of a loop is made, the loop makes no others.
theorem roundsOf_inner {loop rounds : Loop} (same : rounds.rank = loop.rank)
    (round : rounds.flow.Executes checker turns outcome) : roundsOf loop turns = 0 := by
  refine List.countP_eq_zero.mpr fun turn member => ?_
  have lower := round.rank_lt rounds.below_flow turn member
  simp only [decide_eq_true_eq]
  omega

theorem roundsOf_round_le {loop rounds : Loop} (more : rounds.again checker = true)
    (round : rounds.flow.Executes checker turns outcome)
    (here : checker.tokens.index + roundsOf loop turns ≤ outcome.after.tokens.index) (first last : Nat) :
    checker.tokens.index + roundsOf loop (turns ++ [⟨rounds,first,last⟩]) ≤ outcome.after.tokens.index := by
  rw [roundsOf_append]
  by_cases same : rounds.rank = loop.rank
  · have none := roundsOf_inner same round
    have one : roundsOf loop [⟨rounds,first,last⟩] = 1 := by simp [roundsOf,same]
    have further := round.round_lt more
    omega
  · have none : roundsOf loop [⟨rounds,first,last⟩] = 0 := by simp [roundsOf,same]
    omega

theorem index_land_le (skipped : Nat) (rested : Checker) :
    rested.tokens.index ≤ (rested.land skipped).tokens.index := by
  simp only [land]
  split
  · exact (quiet_next { rested with journal := rested.journal.push (.recovered skipped) }).index
  · exact Nat.le_refl _

theorem roundsOf_le (loop : Loop) {flow : Flow} (executed : flow.Executes checker turns outcome) :
    checker.tokens.index + roundsOf loop turns ≤ outcome.after.tokens.index := by
  induction executed with
  | act deed checker => exact (Flow.Executes.act deed checker).index_le
  | seqFinished _ _ here there =>
    rw [roundsOf_append,← Nat.add_assoc]
    exact Nat.le_trans (Nat.add_le_add_right here _) there
  | seqStopped _ here => exact here
  | chooseFirst _ _ here => exact here
  | chooseSecond _ _ here => exact here
  | loopDone _ => exact Nat.le_refl _
  | loopFinished more round _ here onward =>
    rw [List.append_cons,roundsOf_append,← Nat.add_assoc]
    exact Nat.le_trans (Nat.add_le_add_right (roundsOf_round_le more round here _ _) _) onward
  | loopStopped more round here => exact roundsOf_round_le more round here _ _
  | synchronize _ skips => exact Nat.le_trans skips (index_land_le _ _)
  | recoverFinished _ here => exact here
  | recoverStopped _ _ here resumes =>
    rw [roundsOf_append,← Nat.add_assoc]
    exact Nat.le_trans (Nat.add_le_add_right here _) resumes

-- Called from any state, a construct comes to its end, and each of its loops takes a token a round.
theorem loops_move_on (checker : Checker) :
    (∀ loop : Loop, loop.again checker = true → checker.tokens.index < (loop.round checker).after.tokens.index) ∧
      ∀ call : Call, (∃ turns, call.flow.Executes checker turns (call.run checker)) ∧
        ∀ turns outcome, call.flow.Executes checker turns outcome →
          outcome = call.run checker ∧ (∀ turn ∈ turns, turn.first < turn.last) ∧
            ∀ loop, roundsOf loop turns ≤ checker.tokens.toList.length - checker.tokens.index := by
  refine ⟨fun loop more => loop.index_round_lt checker more,fun call => ⟨?_,?_⟩⟩
  · rw [← call.run_flow]
    exact call.flow.terminates checker
  · intro turns outcome executed
    have ended : outcome = call.run checker := by rw [executed.outcome_eq,call.run_flow]
    refine ⟨ended,executed.moves,fun loop => ?_⟩
    have counted := roundsOf_le loop executed
    have bound := index_le_of_later (proceeds_call call checker)
    rw [ended] at counted
    omega

end PascalCheck.Checker
