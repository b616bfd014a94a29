import PascalCheck.Proofs.Grammar.Expectation

namespace PascalCheck.Checker
open Grammar
open scoped Computability

variable {whole onward : Phrases} {checker : Checker} {follow : List TokenKind}

theorem reads_term : Reads Grammar.term follow term := by
  refine ⟨fun {whole checker onward} opens expects => ?_⟩
  by_cases here : checker.current = .ident ∨ checker.current = .number
  · rw [term,if_pos here]
    exact Or.inl ⟨quiet_next _,expects.next_either here (by decide)⟩
  · rw [term,if_neg here]
    exact told_here expects (opens_term.mul opens.inhabited) (by simpa using here) (by decide) _ _

theorem atOperator_iff : checker.atOperator = true ↔ checker.current ∈ [TokenKind.plus,.minus,.star,.slash] := by
  simp [atOperator,or_assoc]

theorem reads_operations (apart : ∀ kind ∈ follow, kind ∉ [TokenKind.plus,.minus,.star,.slash]) :
    Reads (operator * Grammar.term)∗ follow operations := by
  refine Reads.star (opens_operator.mul opens_term.inhabited) proceeds_term.next (fun _ => atOperator_iff) apart ?_
  intro whole checker onward more opens expects
  have here := atOperator_iff.mp more
  have member : [checker.current] ∈ operator := by
    simp only [List.mem_cons,List.not_mem_nil,or_false] at here
    rcases here with same | same | same | same <;> rw [same]
    · exact Or.inl (Or.inl (Or.inl rfl))
    · exact Or.inl (Or.inl (Or.inr rfl))
    · exact Or.inl (Or.inr rfl)
    · exact Or.inr rfl
  exact reads_term.next opens expects (fun same => by simp [same] at here) member single_operator

theorem reads_expression (apart : ∀ kind ∈ follow, kind ∉ [TokenKind.plus,.minus,.star,.slash]) :
    Reads Grammar.expression follow expression :=
  reads_term.andThen (reads_operations apart) proceeds_operations
    fun _ opens => (opens_operator.mul opens_term.inhabited).star opens

theorem reads_argument (apart : ∀ kind ∈ follow, kind ∉ [TokenKind.plus,.minus,.star,.slash]) :
    Reads Grammar.argument follow argument := by
  refine ⟨fun {whole checker onward} opens expects => ?_⟩
  rw [Grammar.argument,add_mul] at expects
  by_cases here : checker.current = .string
  · rw [argument,if_pos here]
    have text := expects.left (opens_expression.mul opens.inhabited) (by simp [here])
    exact Or.inl ⟨quiet_next _,text.next_one here (by decide)⟩
  · rw [argument,if_neg here]
    exact (reads_expression apart).meets opens (expects.right ((Opens.one _).mul opens.inhabited) (by simpa using here))

theorem atComma_iff : checker.atComma = true ↔ checker.current ∈ [TokenKind.comma] := by simp [atComma]

theorem reads_furtherArguments : Reads (one .comma * Grammar.argument)∗ [.rparen] furtherArguments := by
  refine Reads.star ((Opens.one _).mul opens_argument.inhabited) proceeds_argument.next (fun _ => atComma_iff)
    (by decide) ?_
  intro whole checker onward more opens expects
  exact (reads_argument (by decide)).next_one opens expects (by simpa using atComma_iff.mp more) (by decide)

theorem reads_argumentList : Reads (Grammar.argument * (one .comma * Grammar.argument)∗) [.rparen]
    fun checker => checker.argument.andThen furtherArguments := by
  have first : Reads Grammar.argument [.rparen,.comma] argument := reads_argument (by decide)
  exact first.andThen reads_furtherArguments proceeds_furtherArguments
    fun _ opens => ((Opens.one _).mul opens_argument.inhabited).star opens

theorem reads_arguments : Reads Grammar.arguments [.rparen] arguments := by
  refine ⟨fun {whole checker onward} opens expects => ?_⟩
  have some := opens_argument.mul (inhabited_star (one .comma * Grammar.argument))
  rw [Grammar.arguments,optional_mul] at expects
  by_cases here : checker.current = .rparen
  · rw [arguments,if_pos here]
    exact Or.inl ⟨Quiet.refl _,expects.left (some.mul opens.inhabited) (by simp [here])⟩
  · rw [arguments,if_neg here]
    exact reads_argumentList.meets opens (expects.right opens (by simpa using here))

-- A dot begins a selector only if an identifier follows it: both are in sight.
theorem not_inSight_field (away : ¬ (checker.current = .dot ∧ checker.tokens.following = .ident)) :
    ∀ word ∈ one .dot * one .ident * onward, ¬ InSight checker (checker.behind ++ word) := by
  intro word member seen
  rw [mul_assoc] at member
  obtain ⟨after,inside,rfl⟩ := mem_one_mul.mp member
  obtain ⟨rest,_,rfl⟩ := mem_one_mul.mp inside
  obtain ⟨tail,same⟩ := inSight_append.mp seen
  by_cases deep : checker.ahead.head? = some .dot ∧ checker.ahead[1]? ≠ some TokenKind.ident
  · rw [sight,if_pos deep] at same
    exact deep.2 (by rw [← same]; rfl)
  · rw [sight,if_neg deep] at same
    rw [← same] at deep
    refine away ⟨current_of_ahead same.symm,?_⟩
    cases tail with
    | nil => simp at deep
    | cons second others =>
      have followed : second = .ident := by simpa using deep
      exact (following_of_ahead same.symm).trans followed

theorem reads_selector : Reads (optional Grammar.selector) [.assign,.lparen,.semi,.endWord] selector := by
  refine ⟨fun {whole checker onward} opens expects => ?_⟩
  rw [optional_mul,Grammar.selector,add_mul] at expects
  have index := opens_index.mul opens.inhabited
  have field := opens_field.mul opens.inhabited
  by_cases bracket : checker.current = .lbracket
  · rw [selector,if_pos bracket]
    have bracketed := (expects.right opens (by simp [bracket])).left field (by simp [bracket])
    exact ((Reads.need (by decide)).needed (by decide)).next_one opens bracketed bracket (by decide)
  by_cases dotted : checker.current = .dot ∧ checker.tokens.following = .ident
  · rw [selector,if_neg bracket,if_pos dotted]
    have name := (expects.right opens (by simp [dotted.1])).right index (by simpa using bracket)
    rw [mul_assoc] at name
    have second : checker.next.current = .ident := by
      rw [← dotted.2]
      rcases checker with ⟨⟨passed,_ | ⟨token,_ | ⟨other,rest⟩⟩⟩,sink,journal⟩ <;> rfl
    have named := (name.next_one dotted.1 (by decide)).next_one second (by decide)
    exact Or.inl ⟨(quiet_next _).trans (quiet_next _),named⟩
  · rw [selector,if_neg bracket,if_neg dotted]
    refine Or.inl ⟨Quiet.refl _,expects.choose fun word member => ?_⟩
    cases member with
    | inl member => exact not_inSight_of_opens index (by simpa using bracket) word member
    | inr member => exact not_inSight_field dotted word member

theorem reads_action : Reads (optional Grammar.action) [.semi,.endWord] action := by
  refine ⟨fun {whole checker onward} opens expects => ?_⟩
  rw [optional_mul,Grammar.action,add_mul] at expects
  have value := opens_assignment.mul opens.inhabited
  have call := opens_call.mul opens.inhabited
  by_cases assign : checker.current = .assign
  · rw [action,if_pos assign]
    have assigned := (expects.right opens (by simp [assign])).left call (by simp [assign])
    exact (reads_expression (by decide)).next_one opens assigned assign (by decide)
  by_cases bracket : checker.current = .lparen
  · rw [action,if_neg assign,if_pos bracket]
    have called := (expects.right opens (by simp [bracket])).right value (by simp [bracket])
    exact (reads_arguments.needed (by decide)).next_one opens called bracket (by decide)
  · rw [action,if_neg assign,if_neg bracket]
    exact Or.inl ⟨Quiet.refl _,expects.left (value.either call) (by simpa using ⟨assign,bracket⟩)⟩

theorem meets_begunStatement (opens : Opens [.semi,.endWord] onward)
    (expects : Expects whole checker (Grammar.statement * onward))
    (begun : ¬ (checker.current = .semi ∨ checker.current = .endWord)) :
    Meets whole checker (Expects whole · onward) checker.statement := by
  by_cases here : checker.current = .ident ∨ checker.current = .writelnWord
  · rw [statement,if_neg begun,if_pos here]
    have parts := reads_selector.andThen reads_action proceeds_action
      fun _ opens => (opens_action.optional opens).mono (by decide)
    rw [Grammar.statement,mul_assoc] at expects
    exact Meets.earlier (parts.meets opens (expects.next_either here (by decide))) (quiet_next _)
  · rw [statement,if_neg begun,if_neg here]
    exact told_here expects (opens_statement.mul opens.inhabited) (by simpa using here) (by decide) _ _

theorem reads_statement : Reads (optional Grammar.statement) [.semi,.endWord] statement := by
  refine ⟨fun {whole checker onward} opens expects => ?_⟩
  rw [optional_mul] at expects
  by_cases past : checker.current = .semi ∨ checker.current = .endWord
  · rw [statement,if_pos past]
    refine Or.inl ⟨Quiet.refl _,expects.left (opens_statement.mul opens.inhabited) ?_⟩
    cases past with
    | inl same => simp [same]
    | inr same => simp [same]
  · exact meets_begunStatement opens (expects.right opens (by simpa using past)) past

-- Where a round of statements begins: at a statement that may be left out, or where they are over.
def AtStatement (whole onward : Phrases) (checker : Checker) : Prop :=
  Expects whole checker (optional Grammar.statement * (furtherStatements * onward)) ∨
    Expects whole checker onward ∧ checker.inCompound = false

theorem opens_furtherStatements (opens : Opens [.endWord] onward) :
    Opens [.semi,.endWord] (furtherStatements * onward) :=
  (((Opens.one .semi).mul (inhabited_optional Grammar.statement)).star opens).mono (by decide)

theorem meets_separator (opens : Opens [.endWord] onward) (expects : Expects whole checker (furtherStatements * onward)) :
    Meets whole checker (AtStatement whole onward) checker.separator := by
  have further : Opens [.semi] (one .semi * optional Grammar.statement * (furtherStatements * onward)) :=
    ((Opens.one _).mul (inhabited_optional _)).mul (opens_furtherStatements opens).inhabited
  have parts := expects
  rw [furtherStatements,star_mul,← furtherStatements] at parts
  by_cases semi : checker.current = .semi
  · rw [separator,if_pos semi]
    have marked := parts.right opens (by simp [semi])
    rw [mul_assoc] at marked
    exact Or.inl ⟨quiet_next _,Or.inl (marked.next_one semi (by decide))⟩
  by_cases past : checker.current = .endWord ∨ checker.current = .eof
  · rw [separator,if_neg semi,if_pos past]
    refine Or.inl ⟨Quiet.refl _,Or.inr ⟨parts.left further (by simpa using semi),?_⟩⟩
    cases past with
    | inl same => simp [inCompound,same]
    | inr same => simp [inCompound,same]
  · rw [separator,if_neg semi,if_neg past]
    rw [not_or] at past
    exact told_after (expects.deviates (opens_furtherStatements opens) (by simp [semi,past])) _ _

theorem onward_of_over (opens : Opens [.endWord] onward) (past : checker.inCompound = false)
    (expects : Expects whole checker (optional Grammar.statement * (furtherStatements * onward))) :
    Expects whole checker onward := by
  have further := opens_furtherStatements opens
  have rested : checker.current = .endWord ∨ checker.current = .dot ∨ checker.current = .eof := by
    simp only [inCompound,Bool.not_eq_false',Bool.or_eq_true,beq_iff_eq] at past
    rwa [or_assoc] at past
  have away : checker.current ∉ [TokenKind.ident,.writelnWord] ∧ checker.current ∉ [TokenKind.semi] := by
    rcases rested with same | same | same <;> simp [same]
  rw [optional_mul] at expects
  have later := expects.left (opens_statement.mul further.inhabited) away.1
  rw [furtherStatements,star_mul,← furtherStatements] at later
  have marks := ((Opens.one .semi).mul (inhabited_optional Grammar.statement)).mul further.inhabited
  exact later.left marks away.2

theorem meets_statements (opens : Opens [.endWord] onward)
    (expects : Expects whole checker (optional Grammar.statement * (furtherStatements * onward))) :
    Meets whole checker (Expects whole · onward) checker.statements := by
  have further := opens_furtherStatements opens
  have rounds : Meets whole checker (fun state => AtStatement whole onward state ∧ state.inCompound = false)
      checker.statements := by
    refine Meets.repeatWhile checker proceeds_statementItem.recover (Or.inl expects) ?_
    rintro state (held | ⟨_,past⟩) more
    · refine Meets.recover ((reads_statement.meets further held).andThen ?_ proceeds_separator)
      exact fun state _ held => meets_separator opens held
    · simp [past] at more
  refine rounds.mono ?_
  rintro state ⟨held | ⟨held,_⟩,past⟩
  · exact onward_of_over opens past held
  · exact held

theorem reads_compoundEnd : Reads (one .endWord) follow compoundEnd := by
  refine ⟨fun {whole checker onward} opens expects => ?_⟩
  by_cases here : checker.current = .endWord
  · rw [compoundEnd,if_pos here]
    exact Or.inl ⟨quiet_next _,expects.next_one here (by decide)⟩
  · rw [compoundEnd,if_neg here]
    exact Or.inr (told_after (expects.deviates ((Opens.one _).mul opens.inhabited) (by simpa using here)) _ _)

theorem meets_compound (opens : Opens follow onward) (expects : Expects whole checker (Grammar.compound * onward))
    (here : checker.current = .beginWord) : Meets whole checker (Expects whole · onward) checker.compound := by
  have closed : Opens [.endWord] (one .endWord * onward) := (Opens.one _).mul opens.inhabited
  simp only [Grammar.compound,mul_assoc] at expects
  have inner := expects.next_one here (by decide)
  refine Meets.andThen ?_ (fun _ _ held => reads_compoundEnd.meets opens held) proceeds_compoundEnd
  exact (meets_statements closed inner).earlier (quiet_next _)

theorem reads_furtherNames : Reads (one .comma * one .ident)∗ [.colon] furtherNames := by
  refine Reads.star ((Opens.one _).mul (inhabited_one _)) proceeds_furtherName (fun _ => atComma_iff) (by decide) ?_
  intro whole checker onward more opens expects
  exact (Reads.expect (by decide) _ _).next_one opens expects (by simpa using atComma_iff.mp more) (by decide)

theorem reads_names : Reads Grammar.names [.colon] names :=
  (Reads.need (by decide)).andThen reads_furtherNames proceeds_furtherNames
    fun _ opens => ((Opens.one .comma).mul (inhabited_one .ident)).star opens

theorem reads_standardType (code : Int) : Reads standard follow (standardType code) := by
  refine ⟨fun {whole checker onward} opens expects => ?_⟩
  by_cases here : isStandard checker.current = true
  · rw [standardType,if_pos here]
    have named : checker.current = .ident ∨ checker.current = .integerWord := by simpa [isStandard] using here
    exact Or.inl ⟨quiet_next _,expects.next_either named (by decide)⟩
  · rw [standardType,if_neg here]
    exact told_here expects (opens_standard.mul opens.inhabited) (by simpa [isStandard] using here) (by decide) _ _

theorem meets_arrayType (opens : Opens follow onward) (expects : Expects whole checker (array * onward))
    (here : checker.current = .arrayWord) : Meets whole checker (Expects whole · onward) checker.arrayType := by
  have parts : Reads (bounds * one .ofWord * standard) follow fun checker =>
      (((((((checker.need .lbracket).andThen (need .number)).andThen (need .dotdot)).andThen (need .number)).andThen
        (need .rbracket)).andThen (need .ofWord)).andThen (standardType Problem.standardType.code)) :=
    ((((((Reads.need (by decide)).needed (by decide)).needed (by decide)).needed (by decide)).needed (by decide)).needed
      (by decide)).followed (reads_standardType _) (proceeds_standardType _) opens_standard
  exact parts.next_one opens expects here (by decide)

theorem reads_fieldItem : Reads fieldRow follow fieldItem :=
  ((reads_names.needed (by decide)).followed (reads_standardType _) (proceeds_standardType _) opens_standard).needed
    (by decide)

theorem atName_iff : checker.atName = true ↔ checker.current ∈ [TokenKind.ident] := by simp [atName]

theorem reads_fields : Reads fieldRow∗ [.endWord] fields :=
  Reads.star opens_fieldRow proceeds_fieldItem.recover (fun _ => atName_iff) (by decide)
    fun _ opens expects => (reads_fieldItem.meets opens expects).recover

theorem meets_recordType (opens : Opens follow onward) (expects : Expects whole checker (record * onward))
    (here : checker.current = .recordWord) : Meets whole checker (Expects whole · onward) checker.recordType := by
  have close : Reads (one .endWord) follow (expect .endWord Problem.recordEnd.code none) := Reads.expect (by decide) _ _
  exact (reads_fields.followed close (proceeds_expect _ _ _) (Opens.one _)).next_one opens expects here (by decide)

theorem reads_typeSpec : Reads Grammar.typeSpec follow typeSpec := by
  refine ⟨fun {whole checker onward} opens expects => ?_⟩
  rw [Grammar.typeSpec,add_mul,add_mul] at expects
  have listed := opens_array.mul opens.inhabited
  have grouped := opens_record.mul opens.inhabited
  have plain := opens_standard.mul opens.inhabited
  by_cases listing : checker.current = .arrayWord
  · rw [typeSpec,if_pos listing]
    exact meets_arrayType opens (expects.left (grouped.either plain) (by simp [listing])) listing
  have rest := expects.right listed (by simpa using listing)
  by_cases grouping : checker.current = .recordWord
  · rw [typeSpec,if_neg listing,if_pos grouping]
    exact meets_recordType opens (rest.left plain (by simp [grouping])) grouping
  · rw [typeSpec,if_neg listing,if_neg grouping]
    exact (reads_standardType _).meets opens (rest.right grouped (by simpa using grouping))

theorem reads_variableItem : Reads variableRow follow variableItem :=
  ((reads_names.needed (by decide)).followed reads_typeSpec proceeds_typeSpec opens_typeSpec).needed (by decide)

theorem meets_varSection (apart : ∀ kind ∈ follow, kind ∉ [TokenKind.ident]) (opens : Opens follow onward)
    (expects : Expects whole checker (one .varWord * variableRow∗ * onward)) (here : checker.current = .varWord) :
    Meets whole checker (Expects whole · onward) checker.varSection := by
  have rows : Reads variableRow∗ follow (repeatWhile atName (recover variableItem) variable_progress) :=
    Reads.star opens_variableRow proceeds_variableItem.recover (fun _ => atName_iff) apart
      fun _ opens expects => (reads_variableItem.meets opens expects).recover
  exact rows.next_one opens expects here (by decide)

theorem reads_constantValue : Reads (one .number) follow constantValue := by
  refine ⟨fun {whole checker onward} opens expects => ?_⟩
  by_cases here : checker.current = .number
  · rw [constantValue,if_pos here]
    exact Or.inl ⟨quiet_next _,expects.next_one here (by decide)⟩
  · rw [constantValue,if_neg here]
    exact told_here expects ((Opens.one _).mul opens.inhabited) (by simpa using here) (by decide) _ _

theorem meets_constantItem (opens : Opens follow onward) (expects : Expects whole checker (constantRow * onward))
    (here : checker.current = .ident) : Meets whole checker (Expects whole · onward) checker.constantItem := by
  have parts : Reads (one .eq * one .number * one .semi) follow fun checker =>
      ((checker.need .eq).andThen constantValue).andThen (need .semi) :=
    ((Reads.need (by decide)).followed reads_constantValue proceeds_constantValue (Opens.one _)).needed (by decide)
  exact parts.next_one opens expects here (by decide)

theorem meets_constSection (apart : ∀ kind ∈ follow, kind ∉ [TokenKind.ident]) (opens : Opens follow onward)
    (expects : Expects whole checker (one .constWord * constantRow∗ * onward)) (here : checker.current = .constWord) :
    Meets whole checker (Expects whole · onward) checker.constSection := by
  have rows : Reads constantRow∗ follow (repeatWhile atName (recover constantItem) constant_progress) :=
    Reads.star opens_constantRow proceeds_constantItem.recover (fun _ => atName_iff) apart
      fun more opens expects => (meets_constantItem opens expects (by simpa using atName_iff.mp more)).recover
  exact rows.next_one opens expects here (by decide)

theorem atSection_iff : checker.atSection = true ↔ checker.current ∈ [TokenKind.varWord,.constWord] := by
  simp [atSection]

theorem reads_sections : Reads Grammar.declarations∗ [.beginWord] sections := by
  refine Reads.star opens_declarations proceeds_declarations (fun _ => atSection_iff) (by decide) ?_
  intro whole checker onward more opens expects
  rw [Grammar.declarations,add_mul] at expects
  by_cases here : checker.current = .varWord
  · rw [declarations,if_pos here]
    have rows := expects.left (opens_constSection.mul opens.inhabited) (by simp [here])
    exact meets_varSection (by decide) opens rows here
  · rw [declarations,if_neg here]
    have rows := expects.right (opens_varSection.mul opens.inhabited) (by simpa using here)
    have fixed : checker.current = .constWord := by simpa [here] using atSection_iff.mp more
    exact meets_constSection (by decide) opens rows fixed

theorem reads_heading : Reads (optional Grammar.heading) [.varWord,.constWord,.beginWord] heading := by
  refine ⟨fun {whole checker onward} opens expects => ?_⟩
  have titled := opens_heading.mul opens.inhabited
  rw [optional_mul,Grammar.heading] at expects
  by_cases here : checker.current = .programWord
  · rw [heading,if_pos here]
    have parts : Reads (one .ident * one .semi) [.varWord,.constWord,.beginWord] title :=
      (Reads.expect (by decide) _ _).needed (by decide)
    have named := expects.right opens (by simp [here])
    rw [mul_assoc] at named
    exact Meets.earlier (parts.meets opens (named.next_one here (by decide))).recover (quiet_next _)
  · rw [heading,if_neg here]
    exact Or.inl ⟨Quiet.refl _,expects.left titled (by simpa using here)⟩

theorem reads_body : Reads Grammar.compound follow body := by
  refine ⟨fun {whole checker onward} opens expects => ?_⟩
  by_cases here : checker.current = .beginWord
  · rw [body,if_pos here]
    exact meets_compound opens expects here
  · rw [body,if_neg here]
    exact Or.inr (told_after (expects.deviates (opens_compound.mul opens.inhabited) (by simpa using here)) _ _)

-- Nothing follows a program, so that here the end of the sentence is what is expected.
theorem meets_finalDot (expects : Expects whole checker (one .dot)) :
    Meets whole checker (Expects whole · 1) checker.finalDot := by
  by_cases here : checker.current = .dot
  · rw [finalDot,if_pos here]
    rw [← mul_one (one .dot)] at expects
    exact Or.inl ⟨quiet_next _,expects.next_one here (by decide)⟩
  · rw [finalDot,if_neg here]
    exact Or.inr (told_after (expects.deviates (Opens.one _) (by simpa using here)) _ _)

theorem meets_program (expects : Expects whole checker Grammar.program) :
    Meets whole checker (Expects whole · 1) checker.program := by
  have declared := reads_heading.andThen reads_sections proceeds_sections
    fun _ opens => (opens_declarations.star opens).mono (by decide)
  have parts := (declared.followed reads_body proceeds_body opens_compound).meets (Opens.one .dot) expects
  exact parts.andThen (fun _ _ held => meets_finalDot held) proceeds_finalDot

end PascalCheck.Checker
