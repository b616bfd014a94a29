import PascalCheck.Analysis
import PascalCheck.Proofs.Corpus.Declaration
import PascalCheck.Proofs.Grammar.Acceptance

namespace PascalCheck

-- The analysis of a text is done, has found nothing wrong, and has read its tokens to the last one.
structure Clean (file : String) (chars : List Char) (scanner : Scanner) : Prop where
  scanned : (Scanner.ofText chars).scan = .finished scanner
  analyzed : analyze file chars = .ok (Analysis.ofScan file scanner)
  quiet : (Analysis.ofScan file scanner).diagnostics = []
  ok : (Analysis.ofScan file scanner).ok = true
  passed : (Analysis.checked scanner).tokens.index = scanner.tokenList.length

theorem clean_of_spells {chars : List Char} (file : String) (spells : Spells Anyhow chars Grammar.program) :
    ∃ scanner, Clean file chars scanner := by
  obtain ⟨segments,same,tiles,member,clean⟩ := spells.read [] trivial
  have ahead : (Scanner.ofText chars).rest = Segment.textOf segments := by
    rw [same]
    exact Text.normalize_of_plain spells.plain
  have located : (Scanner.ofText chars).cursor.Located := Cursor.located_ofText chars
  have scanned := Scanner.finished_of_tiles tiles located ahead fun segment held => (clean segment held).2
  obtain ⟨_,_,tokens,reports⟩ := Scanner.found_of_takeAll located (ahead.trans (List.append_nil _).symm)
  rw [Segment.complaintsAfter_none _ fun segment held => (clean segment held).1] at reports
  generalize (Scanner.ofText chars).takeAll segments = scanner at *
  have kinds : scanner.tokenList.map Token.kind = segments.filterMap Segment.kind := by
    rw [tokens]
    exact Segment.kinds_tokensAfter _ _
  have silent : scanner.cursor.sink.toList = [] := reports
  obtain ⟨quiet,index⟩ := @Checker.quiet_of_sentence scanner.tokenList scanner.cursor.sink _ (kinds ▸ member)
    (List.prefix_refl _)
  have none : (Analysis.ofScan file scanner).diagnostics = [] := by
    have unchanged : (Analysis.checked scanner).sink = scanner.cursor.sink := quiet.sink
    change (Analysis.checked scanner).sink.ranked.toList = []
    simp [Sink.toList_ranked,unchanged,silent,Diagnostic.numbered]
  refine ⟨scanner,scanned,?_,none,?_,?_⟩
  · rw [analyze,scanned]
  · rw [Analysis.ok,none]
    rfl
  · exact index.trans (List.length_map _)

namespace Corpus
open Grammar
open scoped Computability

theorem ensures_maybe {part : Draw α} {P : α → Prop} (hundredths : Nat) (each : Draw.Ensures part P) :
    Draw.Ensures (Draw.maybe hundredths part) fun made => ∀ item ∈ made, P item := by
  refine Draw.Ensures.andThen (Draw.ensures_any _) fun there _ => ?_
  cases there with
  | true =>
    refine each.andThen fun made held => Draw.ensures_give fun item same => ?_
    cases same
    exact held
  | false => exact Draw.ensures_give fun item same => by cases same

theorem spells_heading {title : Option Word} (named : ∀ word ∈ title, Named word) :
    Spells Anyhow ((title.toList.map fun name => "program ".toList ++ name ++ [';']).flatMap (· ++ ['\n']))
      (optional heading) := by
  cases title with
  | none => exact Spells.nil.widen (one_le_optional heading)
  | some name =>
    have word : Spells Apart "program".toList (one .programWord) := .word rfl rfl rfl
    have left := (word.after spells_space fun _ _ => apart_cons rfl).append (named name rfl).spells fun _ _ => trivial
    have row := (left.append spells_semi fun _ _ => apart_cons rfl).after spells_feed fun _ _ => trivial
    refine (row.append .nil fun _ _ => trivial).widen ?_
    rw [mul_one,mul_assoc]
    exact le_optional heading

theorem spells_note {note : Option Remark} (each : ∀ remark ∈ note, Spells Anyhow remark.text 1) :
    Spells Anyhow ((note.toList.map Remark.text).flatMap (· ++ ['\n'])) 1 := by
  cases note with
  | none => exact .nil
  | some remark => exact ((each remark rfl).after spells_feed fun _ _ => trivial).after .nil fun _ _ => trivial

theorem statements_step : Grammar.statement * one .semi * (optional Grammar.statement * furtherStatements) ≤
    optional Grammar.statement * furtherStatements := by
  rw [mul_assoc,← mul_assoc (one .semi)]
  exact mul_le_mul' (le_optional _) mul_kstar_le_kstar

theorem spells_statementRows {statements : List Statement} (closed : Bool)
    (each : ∀ statement ∈ statements, Spells Apart statement.text Grammar.statement) :
    Spells Anyhow ((Sample.statementRows closed statements).flatMap (· ++ ['\n']))
      (optional Grammar.statement * furtherStatements) := by
  have none : 1 ≤ optional Grammar.statement * furtherStatements :=
    le_trans (le_of_eq (mul_one 1).symm) (mul_le_mul' (one_le_optional _) one_le_kstar)
  induction statements with
  | nil => exact Spells.nil.widen none
  | cons statement others ih =>
    obtain ⟨here,there⟩ := List.forall_mem_cons.mp each
    have row : Spells Anyhow (indented (statement.text ++ [';']) ++ ['\n']) (Grammar.statement * one .semi) :=
      (spells_indented (here.append spells_semi fun _ _ => apart_cons rfl)).after spells_feed fun _ _ => trivial
    cases others with
    | nil =>
      cases closed with
      | true =>
        refine (row.append .nil fun _ _ => trivial).widen ?_
        exact le_trans (mul_le_mul' le_rfl none) statements_step
      | false =>
        have last : Spells Apart (statement.text ++ []) Grammar.statement := by rwa [List.append_nil]
        refine ((spells_line (spells_indented last)).append .nil fun _ _ => trivial).widen ?_
        exact mul_le_mul' (le_optional _) one_le_kstar
    | cons next rest => exact (row.append (ih there) fun _ _ => trivial).widen statements_step

theorem spells_sample {sample : Sample} (named : ∀ word ∈ sample.title, Named word)
    (declared : ∀ part ∈ sample.declarations, Spells Anyhow (part.rows.flatMap (· ++ ['\n'])) Grammar.declarations)
    (remarked : ∀ remark ∈ sample.remark, Spells Anyhow remark.text 1)
    (stated : ∀ statement ∈ sample.statements, Spells Apart statement.text Grammar.statement) :
    Spells Anyhow sample.text Grammar.program := by
  have first : Spells Apart "begin".toList (one .beginWord) := .word rfl rfl rfl
  have last : Spells Apart "end".toList (one .endWord) := .word rfl rfl rfl
  have dot : Spells Anyhow ['.','\n'] (one .dot) :=
    (Spells.joined rfl (by decide) (by decide)).after spells_feed fun _ _ => rfl
  have ending : Spells Anyhow ("end".toList ++ ['.','\n']) (one .endWord * one .dot) :=
    last.append dot fun _ _ => apart_cons rfl
  have parts := (spells_heading named).append (Spells.many declared fun _ _ _ => trivial).1 fun _ _ => trivial
  have body := ((parts.after (spells_note remarked) fun _ _ => trivial).append (spells_line first) fun _ _ => trivial).append
    (spells_statementRows sample.closed stated) fun _ _ => trivial
  have whole := body.append ending fun _ _ => trivial
  rw [Sample.text,Sample.rows]
  simp only [List.flatMap_append,List.flatMap_assoc,List.flatMap_singleton]
  refine whole.widen (le_of_eq ?_)
  rw [Grammar.program,Grammar.compound]
  simp only [mul_assoc]

theorem ensures_sample : Draw.Ensures Draw.sample fun sample => Spells Anyhow sample.text Grammar.program := by
  refine Draw.Ensures.andThen (ensures_maybe 80 ensures_name) fun title named => ?_
  refine Draw.Ensures.andThen (Draw.ensures_between (by decide)) fun sections _ => ?_
  refine Draw.Ensures.andThen (ensures_declarations.times sections) fun parts declared => ?_
  refine Draw.Ensures.andThen (ensures_maybe 30 ensures_remark) fun note remarked => ?_
  refine Draw.Ensures.andThen (Draw.ensures_between (by decide)) fun count _ => ?_
  refine Draw.Ensures.andThen (ensures_statement.times count) fun statements stated => ?_
  have made : ∀ closed, Spells Anyhow (Sample.mk title parts note statements closed).text Grammar.program :=
    fun closed => spells_sample named declared.2 remarked stated.2
  dsimp only
  split
  · exact Draw.ensures_give (made false)
  · exact Draw.Ensures.andThen (Draw.ensures_any _) fun closed _ => Draw.ensures_give (made closed)

theorem allows_of_samples {count : Nat} {twister : Twister} {sample : Sample} (member : sample ∈ samplesFrom count twister) :
    Draw.Allows Draw.sample sample := by
  induction count generalizing twister with
  | zero => cases member
  | succ count ih =>
    rcases List.mem_cons.mp member with rfl | later
    · exact Draw.allows_run _ _
    · exact ih later

-- Whatever the draws give, and so from every seed.
theorem samples_clean (file : String) :
    (∀ sample, Draw.Allows Draw.sample sample → ∃ scanner, Clean file sample.text scanner) ∧
      ∀ (seed : Int) (count : Nat), ∀ sample ∈ samples seed count, ∃ scanner, Clean file sample.text scanner := by
  have every : ∀ sample, Draw.Allows Draw.sample sample → ∃ scanner, Clean file sample.text scanner :=
    fun sample allowed => clean_of_spells file (ensures_sample sample allowed)
  exact ⟨every,fun seed count sample member => every sample (allows_of_samples member)⟩

theorem samples_clean_from_zero : ∃ scanner, Clean "<memory>" (Draw.sample.run (.ofSeed 0)).1.text scanner :=
  (samples_clean "<memory>").1 _ (Draw.allows_run _ _)

end Corpus

end PascalCheck
