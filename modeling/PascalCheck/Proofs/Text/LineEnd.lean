import Mathlib.Data.List.Chain
import PascalCheck.Proofs.Source.Lines
import PascalCheck.Proofs.Text.Line

namespace PascalCheck.Text

inductive LineEnd where
  | feed | pair | carriage
deriving DecidableEq, Repr

def LineEnd.chars : LineEnd → List Char
  | .feed => ['\n']
  | .pair => ['\r','\n']
  | .carriage => ['\r']

structure EndedLine where
  line : List Char
  ending : LineEnd
deriving DecidableEq, Repr

def Unbroken (line : List Char) : Prop := '\r' ∉ line ∧ '\n' ∉ line

instance (line : List Char) : Decidable (Unbroken line) := inferInstanceAs (Decidable (_ ∧ _))

def laidOut : List EndedLine → List Char → List Char
  | [],last => last
  | row :: rows,last => row.line ++ (row.ending.chars ++ laidOut rows last)

-- Two line ends that a reader takes for one.
def Merge (row next : EndedLine) : Prop := row.ending = .carriage ∧ next = ⟨[],.feed⟩

instance (row next : EndedLine) : Decidable (Merge row next) := inferInstanceAs (Decidable (_ ∧ _))

def Clear (rows : List EndedLine) : Prop := rows.IsChain fun row next => ¬ Merge row next

instance (rows : List EndedLine) : Decidable (Clear rows) := inferInstanceAs (Decidable (List.IsChain _ _))

variable {row next : EndedLine} {rows : List EndedLine} {line last rest : List Char}

theorem feeds_append (plain : '\r' ∉ line) (rest : List Char) : feeds (line ++ rest) = line ++ feeds rest := by
  induction line with
  | nil => rfl
  | cons c line ih =>
    obtain ⟨other,plain⟩ := not_or.mp fun found => plain (List.mem_cons.mpr found)
    rw [List.cons_append,feeds.eq_4 _ _ (fun _ same _ => other same.symm) (fun same => other same.symm),ih plain]
    rfl

theorem feeds_of_plain (plain : '\r' ∉ line) : feeds line = line := by
  rw [← normalize_eq_feeds,normalize_of_plain plain]

theorem feeds_ending (ending : LineEnd) (alone : ending = .carriage → rest.head? ≠ some '\n') :
    feeds (ending.chars ++ rest) = '\n' :: feeds rest := by
  cases ending with
  | feed => exact feeds.eq_4 _ _ (by simp) (by simp)
  | pair => rfl
  | carriage =>
    have next : rest.head? ≠ some '\n' := alone rfl
    refine feeds.eq_3 rest fun others same => next ?_
    rw [same]
    rfl

-- Only an empty line that a line feed ends begins with one.
theorem starts_with_feed (whole : ∀ row ∈ rows, Unbroken row.line) (wholeLast : Unbroken last)
    (feed : (laidOut rows last).head? = some '\n') : rows.head? = some ⟨[],.feed⟩ := by
  rcases rows with _ | ⟨⟨_ | ⟨c,line⟩,ending⟩,rows⟩
  · exact absurd (List.mem_of_head? feed) wholeLast.2
  · cases ending with
    | feed => rfl
    | pair => cases feed
    | carriage => cases feed
  · have first : c = '\n' := Option.some.inj feed
    exact absurd (first ▸ List.mem_cons_self) (whole _ List.mem_cons_self).2

theorem feeds_apart (whole : ∀ ended ∈ row :: rows, Unbroken ended.line) (wholeLast : Unbroken last)
    (apart : ∀ next ∈ rows.head?, ¬ Merge row next) :
    feeds (laidOut (row :: rows) last) = row.line ++ '\n' :: feeds (laidOut rows last) := by
  obtain ⟨here,there⟩ := List.forall_mem_cons.mp whole
  rw [laidOut,feeds_append here.1,feeds_ending]
  intro carriage feed
  exact apart _ (starts_with_feed there wholeLast feed) ⟨carriage,rfl⟩

theorem feeds_merged (plain : '\r' ∉ row.line) (merge : Merge row next) :
    feeds (laidOut (row :: next :: rows) last) = row.line ++ '\n' :: feeds (laidOut rows last) := by
  obtain ⟨carriage,rfl⟩ := merge
  rw [laidOut,feeds_append plain,carriage]
  rfl

theorem merges_or_apart (row : EndedLine) (rows : List EndedLine) :
    (∃ next others, rows = next :: others ∧ Merge row next) ∨ ∀ next ∈ rows.head?, ¬ Merge row next := by
  cases rows with
  | nil => exact Or.inr fun next found => by cases found
  | cons next others =>
    by_cases merge : Merge row next
    · exact Or.inl ⟨next,others,rfl,merge⟩
    · refine Or.inr fun other found => ?_
      rwa [← Option.some.inj found]

theorem count_feeds_le (rows : List EndedLine) (whole : ∀ row ∈ rows, Unbroken row.line) (wholeLast : Unbroken last) :
    (feeds (laidOut rows last)).count '\n' ≤ rows.length := by
  cases rows with
  | nil =>
    rw [laidOut,feeds_of_plain wholeLast.1,List.count_eq_zero_of_not_mem wholeLast.2]
    exact Nat.le_refl _
  | cons row rows =>
    obtain ⟨here,there⟩ := List.forall_mem_cons.mp whole
    have flat := List.count_eq_zero_of_not_mem here.2
    rcases merges_or_apart row rows with ⟨next,others,rfl,merge⟩ | apart
    · have later := count_feeds_le others (List.forall_mem_cons.mp there).2 wholeLast
      rw [feeds_merged here.1 merge,List.count_append,List.count_cons_self,flat,List.length_cons,List.length_cons]
      omega
    · have later := count_feeds_le rows there wholeLast
      rw [feeds_apart whole wholeLast apart,List.count_append,List.count_cons_self,flat,List.length_cons]
      omega
termination_by rows.length

theorem joinWith_cons (separator : Char) (part : List Char) {parts : List (List Char)} (more : parts ≠ []) :
    joinWith separator (part :: parts) = part ++ separator :: joinWith separator parts := by
  cases parts with
  | nil => exact absurd rfl more
  | cons => rfl

theorem lines_joinWith {parts : List (List Char)} (flat : ∀ part ∈ parts, '\n' ∉ part) (some : parts ≠ []) :
    lines (joinWith '\n' parts) = parts := by
  induction parts with
  | nil => exact absurd rfl some
  | cons part parts ih =>
    obtain ⟨here,there⟩ := List.forall_mem_cons.mp flat
    have alone : lines part = [part] := by
      have first : lines (part ++ []) = [part ++ []] := lines_of_flat here rfl
      rwa [List.append_nil] at first
    by_cases more : parts = []
    · rw [more]
      exact alone
    · rw [joinWith_cons _ _ more,lines_append,alone,ih there more]
      rfl

theorem count_joinWith {parts : List (List Char)} (flat : ∀ part ∈ parts, '\n' ∉ part) (some : parts ≠ []) :
    (joinWith '\n' parts).count '\n' + 1 = parts.length := by
  rw [← length_lines,lines_joinWith flat some]

def linesOf (rows : List EndedLine) (last : List Char) : List (List Char) := rows.map EndedLine.line ++ [last]

theorem flat_linesOf (whole : ∀ row ∈ rows, Unbroken row.line) (wholeLast : Unbroken last) :
    ∀ line ∈ linesOf rows last, '\n' ∉ line := by
  refine List.forall_mem_append.mpr ⟨List.forall_mem_map.mpr fun row member => (whole row member).2,?_⟩
  simpa using wholeLast.2

theorem joinWith_linesOf (row : EndedLine) (rows : List EndedLine) (last : List Char) :
    joinWith '\n' (linesOf (row :: rows) last) = row.line ++ '\n' :: joinWith '\n' (linesOf rows last) :=
  joinWith_cons _ _ (by simp)

theorem normalize_laidOut_iff (whole : ∀ row ∈ rows, Unbroken row.line) (wholeLast : Unbroken last) :
    normalize (laidOut rows last) = joinWith '\n' (linesOf rows last) ↔ Clear rows := by
  rw [normalize_eq_feeds]
  induction rows with
  | nil => exact ⟨fun _ => List.isChain_nil,fun _ => feeds_of_plain wholeLast.1⟩
  | cons row rows ih =>
    obtain ⟨here,there⟩ := List.forall_mem_cons.mp whole
    rw [joinWith_linesOf,Clear,List.isChain_cons]
    rcases merges_or_apart row rows with ⟨next,others,rfl,merge⟩ | apart
    · refine ⟨fun same => ?_,fun clear => absurd merge (clear.1 next rfl)⟩
      -- The line end that is lost is missing in the count of them all.
      obtain ⟨_,later⟩ := List.forall_mem_cons.mp there
      have fewer := count_feeds_le others later wholeLast
      rw [feeds_merged here.1 merge,List.append_cancel_left_eq,List.cons.injEq] at same
      have size : (linesOf (next :: others) last).length = others.length + 2 := by simp [linesOf]
      have all := count_joinWith (flat_linesOf there wholeLast) (by simp [linesOf])
      rw [size,← same.2] at all
      omega
    · rw [feeds_apart whole wholeLast apart,List.append_cancel_left_eq,List.cons.injEq,ih there]
      exact ⟨fun same => ⟨apart,same.2⟩,fun clear => ⟨rfl,clear.2⟩⟩

end PascalCheck.Text
