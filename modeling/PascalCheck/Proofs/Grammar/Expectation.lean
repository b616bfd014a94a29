import PascalCheck.Proofs.Grammar.Language
import PascalCheck.Proofs.Grammar.History

namespace PascalCheck.Checker
open Grammar
open scoped Computability

-- How many of the kinds ahead decide how to go on: both of a dot and what follows it, if that is
-- no identifier, and else the next one.
def sight (ahead : List TokenKind) : Nat := if ahead.head? = some .dot ∧ ahead[1]? ≠ some .ident then 2 else 1

def InSight (checker : Checker) (sentence : List TokenKind) : Prop :=
  sentence.take (checker.behind.length + sight checker.ahead) <+: checker.behind ++ checker.ahead

-- Of the sentences in sight, the whole ones are those that go on from here in one of some ways.
structure Expects (whole : Phrases) (checker : Checker) (onward : Phrases) : Prop where
  complete : ∀ word ∈ onward, checker.behind ++ word ∈ whole
  only : ∀ sentence ∈ whole, InSight checker sentence → ∃ word ∈ onward, checker.behind ++ word = sentence

structure Deviates (whole : Phrases) (checker : Checker) : Prop where
  viable : ∃ word, checker.behind ++ word ∈ whole
  refused : ∀ sentence ∈ whole, ¬ InSight checker sentence

def Inside (whole : Phrases) (checker : Checker) : Prop :=
  ∃ kind rest, checker.behind ++ kind :: rest ∈ whole ∧ kind ∉ starters

-- Between two states the first report was made, at a deviation. It stands at the token passed last,
-- or at the current one inside a program.
def Told (whole : Phrases) (earlier later : Checker) : Prop :=
  ∃ state code place message, Quiet earlier state ∧ Deviates whole state ∧
    (place = state.tokens.lastPosition ∨ Inside whole state ∧ place = state.tokens.currentPosition) ∧
    Later (state.report code place message) later

def Meets (whole : Phrases) (earlier : Checker) (good : Checker → Prop) : Checked → Prop
  | .finished later => (Quiet earlier later ∧ good later) ∨ Told whole earlier later
  | .stopped _ later => Told whole earlier later

-- A construct for some phrases: it takes one of them, or tells of a deviation.
structure Reads (phrase : Phrases) (follow : List TokenKind) (construct : Checker → Checked) : Prop where
  meets : ∀ {whole : Phrases} {checker : Checker} {onward : Phrases}, Opens follow onward →
    Expects whole checker (phrase * onward) → Meets whole checker (Expects whole · onward) (construct checker)

variable {whole phrase other onward : Phrases} {checker first between last : Checker}
  {follow kinds : List TokenKind} {good better : Checker → Prop} {construct another : Checker → Checked}

theorem sight_bounds (ahead : List TokenKind) : 1 ≤ sight ahead ∧ sight ahead ≤ 2 := by
  unfold sight
  split <;> decide

theorem following_of_ahead {kind second : TokenKind} {rest : List TokenKind}
    (same : checker.ahead = kind :: second :: rest) : checker.tokens.following = second := by
  rcases checker with ⟨⟨passed,_ | ⟨token,_ | ⟨other,rest⟩⟩⟩,sink,journal⟩
  · cases same
  · cases (List.cons.inj same).2
  · exact (List.cons.inj (List.cons.inj same).2).1

theorem current_of_ahead {kind : TokenKind} {rest : List TokenKind} (same : checker.ahead = kind :: rest) :
    checker.current = kind := by
  rcases checker with ⟨⟨passed,_ | ⟨token,rest⟩⟩,sink,journal⟩
  · cases same
  · exact (List.cons.inj same).1

theorem ahead_next (more : checker.current ≠ .eof) : checker.ahead = checker.current :: checker.next.ahead := by
  rcases checker with ⟨⟨passed,_ | ⟨token,rest⟩⟩,sink,journal⟩
  · exact absurd rfl more
  · rfl

theorem behind_next (more : checker.current ≠ .eof) : checker.next.behind = checker.behind ++ [checker.current] := by
  rcases checker with ⟨⟨passed,_ | ⟨token,rest⟩⟩,sink,journal⟩
  · exact absurd rfl more
  · simp [behind,next,Tape.forward,current,TokenStream.current]

theorem behind_ahead (checker : Checker) :
    checker.behind ++ checker.ahead = checker.tokens.toList.map Token.kind := by
  simp [behind,ahead,Tape.toList]

-- What is seen at a place stays in sight one token earlier, so sight never has to be given up.
theorem inSight_of_next {sentence : List TokenKind} (more : checker.current ≠ .eof)
    (seen : InSight checker.next sentence) : InSight checker sentence := by
  have here := (sight_bounds checker.ahead).2
  have there := (sight_bounds checker.next.ahead).1
  simp only [InSight,behind_next more,List.append_assoc,List.singleton_append,← ahead_next more] at seen
  refine List.IsPrefix.trans (List.take_prefix_take_left ?_) seen
  simp only [List.length_append,List.length_singleton]
  omega

theorem inSight_append {word : List TokenKind} :
    InSight checker (checker.behind ++ word) ↔ word.take (sight checker.ahead) <+: checker.ahead := by
  rw [InSight,List.take_length_add_append,List.prefix_append_right_inj]

theorem not_inSight_of_opens (opens : Opens kinds phrase) (away : checker.current ∉ kinds) :
    ∀ word ∈ phrase, ¬ InSight checker (checker.behind ++ word) := by
  intro word member seen
  obtain ⟨kind,held,rest,rfl⟩ := opens.opening word member
  obtain ⟨deep,same⟩ := Nat.exists_eq_add_of_le' (sight_bounds checker.ahead).1
  rw [inSight_append,same,List.take_succ_cons] at seen
  obtain ⟨after,ahead⟩ := seen
  exact away (current_of_ahead ahead.symm ▸ held)

namespace Expects

theorem choose (expects : Expects whole checker (phrase + other))
    (unseen : ∀ word ∈ other, ¬ InSight checker (checker.behind ++ word)) : Expects whole checker phrase := by
  refine ⟨fun word member => expects.complete word (Or.inl member),fun sentence held seen => ?_⟩
  obtain ⟨word,member | member,rfl⟩ := expects.only sentence held seen
  · exact ⟨word,member,rfl⟩
  · exact absurd seen (unseen word member)

theorem left (expects : Expects whole checker (phrase + other)) (opens : Opens kinds other)
    (away : checker.current ∉ kinds) : Expects whole checker phrase :=
  expects.choose (not_inSight_of_opens opens away)

theorem right (expects : Expects whole checker (phrase + other)) (opens : Opens kinds phrase)
    (away : checker.current ∉ kinds) : Expects whole checker other :=
  (add_comm phrase other ▸ expects).left opens away

theorem next (expects : Expects whole checker (phrase * onward)) (more : checker.current ≠ .eof)
    (here : [checker.current] ∈ phrase) (single : Single phrase) :
    Expects whole checker.next onward := by
  constructor
  · intro word member
    rw [behind_next more,List.append_assoc]
    exact expects.complete _ (Language.append_mem_mul here member)
  · intro sentence held seen
    have before := inSight_of_next more seen
    obtain ⟨_,member,rfl⟩ := expects.only sentence held before
    obtain ⟨taken,inPhrase,rest,inOnward,rfl⟩ := Language.mem_mul.mp member
    obtain ⟨kind,rfl⟩ := List.length_eq_one_iff.mp (single taken inPhrase)
    have same : checker.current = kind := by
      apply Classical.byContradiction
      intro differs
      have opens : Opens [kind] (one kind * onward) := (Opens.one kind).mul ⟨rest,inOnward⟩
      exact not_inSight_of_opens opens (by simpa using differs) _
        (Language.append_mem_mul (a := [kind]) rfl inOnward) before
    exact ⟨rest,inOnward,by simp [behind_next more,same]⟩

theorem next_one {kind : TokenKind} (expects : Expects whole checker (one kind * onward))
    (here : checker.current = kind) (more : kind ≠ .eof) : Expects whole checker.next onward :=
  expects.next (here ▸ more) (here ▸ rfl) (single_one kind)

theorem next_either {kind second : TokenKind} (expects : Expects whole checker ((one kind + one second) * onward))
    (here : checker.current = kind ∨ checker.current = second) (more : kind ≠ .eof ∧ second ≠ .eof) :
    Expects whole checker.next onward := by
  have single : Single (one kind + one second) := (single_one kind).either (single_one second)
  cases here with
  | inl here => exact expects.next (here ▸ more.1) (Or.inl (here ▸ rfl)) single
  | inr here => exact expects.next (here ▸ more.2) (Or.inr (here ▸ rfl)) single

theorem deviates (expects : Expects whole checker onward) (opens : Opens kinds onward)
    (away : checker.current ∉ kinds) : Deviates whole checker := by
  obtain ⟨word,member⟩ := opens.inhabited
  refine ⟨⟨word,expects.complete word member⟩,fun sentence held seen => ?_⟩
  obtain ⟨word,member,rfl⟩ := expects.only sentence held seen
  exact not_inSight_of_opens opens away word member seen

end Expects

theorem told_after (deviates : Deviates whole checker) (code : Int) (message : Option String) :
    Told whole checker (checker.reportAfter code message) :=
  ⟨checker,code,_,message,Quiet.refl _,deviates,Or.inl rfl,Later.refl _⟩

theorem told_here (expects : Expects whole checker onward) (opens : Opens kinds onward)
    (away : checker.current ∉ kinds) (inner : ∀ kind ∈ kinds, kind ∉ starters) (code : Int) (message : Option String) :
    Told whole checker (checker.reportHere code message) := by
  obtain ⟨word,member⟩ := opens.inhabited
  obtain ⟨kind,held,rest,rfl⟩ := opens.opening word member
  exact ⟨checker,code,_,message,Quiet.refl _,expects.deviates opens away,
    Or.inr ⟨⟨kind,rest,expects.complete _ member,inner kind held⟩,rfl⟩,Later.refl _⟩

theorem Told.later (told : Told whole first between) (goes : Later between last) :
    Told whole first last := by
  obtain ⟨state,code,place,message,quiet,deviates,stands,after⟩ := told
  exact ⟨state,code,place,message,quiet,deviates,stands,after.trans goes⟩

theorem Told.earlier (told : Told whole between last) (quiet : Quiet first between) :
    Told whole first last := by
  obtain ⟨state,code,place,message,before,rest⟩ := told
  exact ⟨state,code,place,message,quiet.trans before,rest⟩

namespace Meets

theorem of_told {outcome : Checked} (told : Told whole first between) (goes : Later between outcome.after) :
    Meets whole first good outcome := by
  cases outcome with
  | finished last => exact Or.inr (told.later goes)
  | stopped cause last => exact told.later goes

theorem earlier {outcome : Checked} (meets : Meets whole between good outcome) (quiet : Quiet first between) :
    Meets whole first good outcome := by
  cases outcome with
  | finished last =>
    rcases meets with ⟨after,held⟩ | told
    · exact Or.inl ⟨quiet.trans after,held⟩
    · exact Or.inr (told.earlier quiet)
  | stopped cause last => exact Told.earlier meets quiet

theorem mono {outcome : Checked} (meets : Meets whole first good outcome)
    (weaker : ∀ state, good state → better state) : Meets whole first better outcome := by
  cases outcome with
  | finished last => exact meets.imp_left (And.imp_right (weaker last))
  | stopped cause last => exact meets

theorem andThen {outcome : Checked} (meets : Meets whole first good outcome)
    (there : ∀ state, Quiet first state → good state → Meets whole state better (another state))
    (proceeds : Proceeds another) : Meets whole first better (outcome.andThen another) := by
  cases outcome with
  | stopped cause state => exact meets
  | finished state =>
    rcases meets with ⟨quiet,held⟩ | told
    · exact (there state quiet held).earlier quiet
    · exact of_told told (proceeds state)

theorem recover (meets : Meets whole first good (construct first)) :
    Meets whole first good (recover construct first) := by
  cases same : construct first with
  | finished state =>
    rw [same] at meets
    simpa only [Checker.recover,same] using meets
  | stopped cause state =>
    rw [same] at meets
    simp only [Checker.recover,same]
    exact Or.inr (Told.later meets (later_synchronize isStop state))

theorem repeatWhile {again : Checker → Bool} {progress} (checker : Checker) (proceeds : Proceeds construct)
    (enter : good checker)
    (keeps : ∀ state, good state → again state = true → Meets whole state good (construct state)) :
    Meets whole checker (fun state => good state ∧ again state = false)
      (repeatWhile again construct progress checker) := by
  by_cases more : again checker = true
  · have round := keeps checker enter more
    have shorter := progress checker more
    rw [repeatWhile_round more]
    cases same : construct checker with
    | stopped cause state => rw [same] at round; exact round
    | finished state =>
      rw [same] at round
      rcases round with ⟨quiet,held⟩ | told
      · exact (repeatWhile state proceeds held keeps).earlier quiet
      · exact of_told told (proceeds.repeatWhile state)
  · have past : again checker = false := by simpa using more
    rw [repeatWhile_done past]
    exact Or.inl ⟨Quiet.refl _,enter,past⟩
termination_by checker.left
decreasing_by
  rwa [same] at shorter

end Meets

namespace Reads

theorem expect {kind : TokenKind} (more : kind ≠ .eof) (code : Int) (message : Option String) :
    Reads (one kind) follow (expect kind code message) := by
  refine ⟨fun {whole checker onward} opens expects => ?_⟩
  by_cases here : checker.current = kind
  · rw [Checker.expect,if_pos here]
    exact Or.inl ⟨quiet_next _,expects.next_one here more⟩
  · rw [Checker.expect,if_neg here]
    exact told_after (expects.deviates ((Opens.one kind).mul opens.inhabited) (by simpa using here)) _ _

theorem andThen (here : Reads phrase kinds construct) (there : Reads other follow another) (proceeds : Proceeds another)
    (joins : ∀ onward, Opens follow onward → Opens kinds (other * onward)) :
    Reads (phrase * other) follow fun checker => (construct checker).andThen another := by
  refine ⟨fun {whole checker onward} opens expects => ?_⟩
  rw [mul_assoc] at expects
  exact (here.meets (joins onward opens) expects).andThen (fun _ _ held => there.meets opens held) proceeds

theorem followed (here : Reads phrase kinds construct) (there : Reads other follow another) (proceeds : Proceeds another)
    (opening : Opens kinds other) : Reads (phrase * other) follow fun checker => (construct checker).andThen another :=
  here.andThen there proceeds fun _ opens => opening.mul opens.inhabited

theorem need {kind : TokenKind} (more : kind ≠ .eof) : Reads (one kind) follow (need kind) :=
  expect more _ _

theorem needed {construct : Checker → Checked} {kind : TokenKind} (here : Reads phrase [kind] construct)
    (more : kind ≠ .eof) :
    Reads (phrase * one kind) follow fun checker => (construct checker).andThen (Checker.need kind) :=
  here.followed (need more) (proceeds_need kind) (Opens.one kind)

theorem next {mark : Phrases} (reads : Reads phrase follow construct) (opens : Opens follow onward)
    (expects : Expects whole checker (mark * phrase * onward)) (more : checker.current ≠ .eof)
    (here : [checker.current] ∈ mark) (single : Single mark) :
    Meets whole checker (Expects whole · onward) (construct checker.next) := by
  rw [mul_assoc] at expects
  exact Meets.earlier (reads.meets opens (expects.next more here single)) (quiet_next checker)

theorem next_one {kind : TokenKind} (reads : Reads phrase follow construct) (opens : Opens follow onward)
    (expects : Expects whole checker (one kind * phrase * onward)) (here : checker.current = kind)
    (more : kind ≠ .eof) : Meets whole checker (Expects whole · onward) (construct checker.next) := by
  rw [mul_assoc] at expects
  exact Meets.earlier (reads.meets opens (expects.next_one here more)) (quiet_next checker)

theorem star {again : Checker → Bool} {progress} (opens : Opens kinds phrase) (proceeds : Proceeds construct)
    (starts : ∀ checker, again checker = true ↔ checker.current ∈ kinds) (apart : ∀ kind ∈ follow, kind ∉ kinds)
    (round : ∀ {whole : Phrases} {checker : Checker} {onward : Phrases}, again checker = true →
      Opens (follow ++ kinds) onward → Expects whole checker (phrase * onward) →
      Meets whole checker (Expects whole · onward) (construct checker)) :
    Reads phrase∗ follow (repeatWhile again construct progress) := by
  refine ⟨fun {whole checker onward} after expects => ?_⟩
  have onwards : Opens (follow ++ kinds) (phrase∗ * onward) := opens.star after
  have rounds : Meets whole checker (fun state => Expects whole state (phrase∗ * onward) ∧ again state = false)
      (repeatWhile again construct progress checker) := by
    refine Meets.repeatWhile checker proceeds expects ?_
    intro state held more
    rw [star_mul] at held
    have inside : state.current ∉ follow := fun member => apart _ member ((starts state).mp more)
    exact round more onwards (held.right after inside)
  refine rounds.mono ?_
  rintro state ⟨held,past⟩
  have outside : state.current ∉ kinds := fun member => by simp [(starts state).mpr member] at past
  rw [star_mul] at held
  exact held.left (opens.mul onwards.inhabited) outside

end Reads

end PascalCheck.Checker
