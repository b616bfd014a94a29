import PascalCheck.Proofs.Diagnostic.Rows
import PascalCheck.Proofs.Source.Lines
import PascalCheck.Proofs.Text.Numeral

namespace PascalCheck.Listing

def OneRow (text : String) : Prop := '\n' ∉ text.toList

structure Listable (lines : List String) (entries : List Diagnostic) : Prop where
  flat : ∀ line ∈ lines, OneRow line
  told : ∀ entry ∈ entries, OneRow entry.message
  ordered : entries.Pairwise fun a b => a.line ≤ b.line
  numbers : entries.map Diagnostic.number = (List.range entries.length).map fun i : Nat => (i : Int) + 1
  listed : ∀ entry ∈ entries, 1 ≤ entry.line ∧ entry.line ≤ lines.length
  columns : ∀ entry ∈ entries, 1 ≤ entry.column

def behind (words : String) (row : List Char) : List Char := row.drop words.toList.length

def readEntry (line : Nat) (first second : List Char) : Diagnostic :=
  let numeral := (behind "**" first).takeWhile Text.isDigit
  let pointer := behind "** " ((behind "**" first).drop numeral.length)
  let margin := pointer.takeWhile (· == ' ')
  { line := line
    column := margin.length + 1
    code := Text.integerValue (behind "^ error code " (pointer.drop margin.length))
    number := Text.digitsValue numeral
    message := String.ofList (behind "****** " second) }

-- Rows after so many lines. A blank in front tells a line from an entry, and an empty row ends them all.
def readRows (count : Nat) : List (List Char) → List String × List Diagnostic
  | [] => ([],[])
  | [] :: _ => ([],[])
  | (' ' :: row) :: others =>
    let (lines,entries) := readRows (count + 1) others
    (String.ofList (behind indent (' ' :: row)) :: lines,entries)
  | [_] => ([],[])
  | first :: second :: others =>
    let (lines,entries) := readRows count others
    (lines,readEntry count first second :: entries)

def read (listing : String) : List String × List Diagnostic := readRows 0 (Text.lines listing.toList)

theorem behind_append (words : String) (text : List Char) : behind words (words.toList ++ text) = text :=
  List.drop_left

theorem takeWhile_front {p : Char → Bool} {front others : List Char} {c : Char} (all : ∀ d ∈ front, p d = true)
    (stop : p c = false) : (front ++ c :: others).takeWhile p = front := by
  rw [List.takeWhile_append_of_pos all,List.takeWhile_cons_of_neg (by simp [stop]),List.append_nil]

theorem readEntry_rows (line : Nat) {numeral : List Char} (digits : ∀ c ∈ numeral, Text.isDigit c = true)
    (margin : Nat) (code message : List Char) :
    readEntry line
        ("**".toList ++ (numeral ++ ("** ".toList ++ (List.replicate margin ' ' ++ ("^ error code ".toList ++ code)))))
        ("****** ".toList ++ message) =
      { line := line
        column := margin + 1
        code := Text.integerValue code
        number := Text.digitsValue numeral
        message := String.ofList message } := by
  have number : (numeral ++ ("** ".toList ++ (List.replicate margin ' ' ++ ("^ error code ".toList ++ code)))).takeWhile
      Text.isDigit = numeral := takeWhile_front digits rfl
  have blanks : (List.replicate margin ' ' ++ ("^ error code ".toList ++ code)).takeWhile (· == ' ') =
      List.replicate margin ' ' := takeWhile_front (fun c member => by simp [(List.mem_replicate.mp member).2]) rfl
  simp only [readEntry,behind_append,number,List.drop_left,blanks,List.length_replicate]
  congr 2
  have past := @List.drop_left Char (List.replicate margin ' ') ("^ error code ".toList ++ code)
  rw [List.length_replicate] at past
  rw [past,behind_append]

theorem readEntry_entryRows {entry : Diagnostic} {line : Nat} (inLine : entry.line = line)
    (inColumn : 1 ≤ entry.column) (ranked : 0 ≤ entry.number) :
    ∃ first second, entryRows entry = [first,second] ∧ (∃ row, first.toList = '*' :: row) ∧
      readEntry line first.toList second.toList = entry := by
  obtain ⟨digits,number⟩ := Text.zeroPadded_written 2 ranked
  obtain ⟨_,code⟩ := Text.integer_written entry.code
  have rows := readEntry_rows line digits (entry.column - 1).toNat (toString entry.code).toList entry.message.toList
  have column : ((entry.column - 1).toNat : Int) + 1 = entry.column := by omega
  rw [column,code,number,String.ofList_toList,← inLine] at rows
  refine ⟨_,_,rfl,?_,?_⟩
  · simp only [String.toList_append,List.append_assoc]
    exact ⟨_,rfl⟩
  · simpa only [pointer,String.toList_append,String.toList_ofList,List.append_assoc] using rows

theorem readRows_line (count : Nat) (line : String) (others : List (List Char)) :
    readRows count ((indent ++ line).toList :: others) =
      (line :: (readRows (count + 1) others).1,(readRows (count + 1) others).2) := by
  have row : (indent ++ line).toList = indent.toList ++ line.toList := String.toList_append
  obtain ⟨rest,blank⟩ : ∃ rest, (indent ++ line).toList = ' ' :: rest := by
    rw [row]
    exact ⟨_,rfl⟩
  rw [blank,readRows,← blank,row,behind_append,String.ofList_toList]

theorem readRows_entry {first : List Char} (star : ∃ row, first = '*' :: row) (count : Nat) (second : List Char)
    (others : List (List Char)) :
    readRows count (first :: second :: others) =
      ((readRows count others).1,readEntry count first second :: (readRows count others).2) := by
  obtain ⟨row,rfl⟩ := star
  rw [readRows]
  · rintro ⟨⟩
  · rintro _ ⟨⟩

theorem readRows_entries {group : List Diagnostic} {count : Nat} (inLine : ∀ entry ∈ group, entry.line = (count : Int))
    (columns : ∀ entry ∈ group, 1 ≤ entry.column) (ranked : ∀ entry ∈ group, 0 ≤ entry.number)
    (others : List (List Char)) :
    readRows count ((group.flatMap entryRows).map String.toList ++ others) =
      ((readRows count others).1,group ++ (readRows count others).2) := by
  induction group with
  | nil => rfl
  | cons entry group ih =>
    obtain ⟨here,inLine⟩ := List.forall_mem_cons.mp inLine
    obtain ⟨column,columns⟩ := List.forall_mem_cons.mp columns
    obtain ⟨number,ranked⟩ := List.forall_mem_cons.mp ranked
    obtain ⟨first,second,rows,star,read⟩ := readEntry_entryRows here column number
    have rest := ih inLine columns ranked
    have split : ((entry :: group).flatMap entryRows).map String.toList ++ others =
        first.toList :: second.toList :: ((group.flatMap entryRows).map String.toList ++ others) := by
      rw [List.flatMap_cons,rows]
      rfl
    rw [split,readRows_entry star,rest,read]
    rfl

theorem readRows_parts {parts : List (String × List Diagnostic)} {count : Nat}
    (inLines : ∀ (row : Nat) (part : String × List Diagnostic), parts[row]? = some part →
      ∀ entry ∈ part.2, entry.line = ((count + row + 1 : Nat) : Int))
    (columns : ∀ part ∈ parts, ∀ entry ∈ part.2, 1 ≤ entry.column)
    (ranked : ∀ part ∈ parts, ∀ entry ∈ part.2, 0 ≤ entry.number) (others : List (List Char)) :
    readRows count ((parts.flatMap fun part => (indent ++ part.1) :: part.2.flatMap entryRows).map String.toList ++
        [] :: others) =
      (parts.map Prod.fst,(parts.map Prod.snd).flatten) := by
  induction parts generalizing count with
  | nil => rfl
  | cons part parts ih =>
    obtain ⟨column,columns⟩ := List.forall_mem_cons.mp columns
    obtain ⟨number,ranked⟩ := List.forall_mem_cons.mp ranked
    have here : ∀ entry ∈ part.2, entry.line = ((count + 1 : Nat) : Int) := inLines 0 part rfl
    have rest := @ih (count + 1) (fun row part found entry member => by
      rw [inLines (row + 1) part found entry member]
      omega) columns ranked
    rw [List.flatMap_cons,List.map_append,List.map_cons,List.append_assoc,List.cons_append,readRows_line,
      readRows_entries here column number,rest]
    rfl

theorem oneRow_append {first second : String} (here : OneRow first) (there : OneRow second) : OneRow (first ++ second) := by
  rw [OneRow,String.toList_append,List.mem_append]
  rintro (front | back)
  · exact here front
  · exact there back

theorem oneRow_of_all {p : Char → Bool} {text : String} (all : ∀ c ∈ text.toList, p c = true) (feed : p '\n' = false) :
    OneRow text := by
  intro member
  rw [all _ member] at feed
  cases feed

theorem oneRow_of_plain {text : String} (plain : text.toList.all (· != '\n') = true) : OneRow text :=
  oneRow_of_all (List.all_eq_true.mp plain) rfl

theorem oneRow_integer (n : Int) : OneRow (toString n) := by
  intro member
  rcases (Text.integer_written n).1 _ member with sign | digit
  · cases sign
  · cases digit

theorem lines_join {rows : List String} (flat : ∀ row ∈ rows, OneRow row) :
    Text.lines (String.join (rows.map (· ++ "\n"))).toList = rows.map String.toList ++ [[]] := by
  induction rows with
  | nil => rfl
  | cons row rows ih =>
    obtain ⟨here,flat⟩ := List.forall_mem_cons.mp flat
    have split : (String.join ((row :: rows).map (· ++ "\n"))).toList =
        row.toList ++ '\n' :: (String.join (rows.map (· ++ "\n"))).toList := by
      rw [List.map_cons,String.join_cons,String.toList_append,String.toList_append,List.append_assoc]
      rfl
    have alone : Text.lines row.toList = [row.toList] := by
      have first : Text.lines (row.toList ++ []) = [row.toList ++ []] := Text.lines_of_flat here rfl
      rwa [List.append_nil] at first
    rw [split,Text.lines_append,alone,ih flat]
    rfl

theorem oneRow_entryRows {entry : Diagnostic} (told : OneRow entry.message) (ranked : 0 ≤ entry.number) :
    ∀ row ∈ entryRows entry, OneRow row := by
  have number : OneRow (String.ofList (Text.zeroPadded 2 entry.number)) := by
    apply oneRow_of_all (p := Text.isDigit)
    · rw [String.toList_ofList]
      exact (Text.zeroPadded_written 2 ranked).1
    · rfl
  have margin : OneRow (String.ofList (List.replicate (entry.column - 1).toNat ' ')) := by
    apply oneRow_of_all (p := (· == ' '))
    · intro c member
      rw [String.toList_ofList] at member
      simp [(List.mem_replicate.mp member).2]
    · rfl
  have first : OneRow ("**" ++ String.ofList (Text.zeroPadded 2 entry.number) ++ "** " ++ pointer entry) := by
    apply oneRow_append
    · exact oneRow_append (oneRow_append (oneRow_of_plain rfl) number) (oneRow_of_plain rfl)
    · exact oneRow_append (oneRow_append margin (oneRow_of_plain rfl)) (oneRow_integer entry.code)
  have second : OneRow ("****** " ++ entry.message) := oneRow_append (oneRow_of_plain rfl) told
  exact List.forall_mem_cons.mpr ⟨first,List.forall_mem_singleton.mpr second⟩

variable {lines : List String} {entries : List Diagnostic}

theorem number_of_listable (listable : Listable lines entries) : ∀ entry ∈ entries, 1 ≤ entry.number :=
  fun _ member => Diagnostic.number_of_counted listable.numbers member

theorem oneRow_rows (listable : Listable lines entries) {parts : List (String × List Diagnostic)}
    (listed : ∀ part ∈ parts, part.1 ∈ lines) (inside : ∀ part ∈ parts, ∀ entry ∈ part.2, entry ∈ entries) :
    ∀ row ∈ (parts.flatMap fun part => (indent ++ part.1) :: part.2.flatMap entryRows) ++ ["",summary entries],
      OneRow row := by
  intro row member
  rcases List.mem_append.mp member with shown | closing
  · obtain ⟨part,held,shown⟩ := List.mem_flatMap.mp shown
    rcases List.mem_cons.mp shown with rfl | shown
    · exact oneRow_append (oneRow_of_plain rfl) (listable.flat part.1 (listed part held))
    · obtain ⟨entry,mine,shown⟩ := List.mem_flatMap.mp shown
      have known := inside part held entry mine
      exact oneRow_entryRows (listable.told entry known) (Int.le_of_lt (number_of_listable listable entry known)) row shown
  · rcases List.mem_cons.mp closing with rfl | closing
    · exact oneRow_of_plain rfl
    · rw [List.mem_singleton.mp closing]
      exact oneRow_append (oneRow_append (oneRow_of_plain rfl) (oneRow_integer entries.length)) (oneRow_of_plain rfl)

-- What stands in the lines of a listing: each line with the rows of its group, the summary, and nothing behind it.
theorem lines_render (listable : Listable lines entries) :
    ∃ groups, Grouped entryRows lines entries groups (render lines entries) ∧
      Text.lines (render lines entries).toList =
        ((lines.zip groups).flatMap fun part => (indent ++ part.1) :: part.2.flatMap entryRows).map String.toList ++
          [[],(summary entries).toList,[]] := by
  have grouped := grouped_of_ordered listable.ordered listable.listed
  refine ⟨_,grouped,?_⟩
  generalize Diagnostic.groups lines.length entries = groups at grouped
  have listed : ∀ part ∈ lines.zip groups, part.1 ∈ lines := fun part member => (List.of_mem_zip member).1
  have inside : ∀ part ∈ lines.zip groups, ∀ entry ∈ part.2, entry ∈ entries := by
    intro part member entry held
    rw [← grouped.all]
    exact List.mem_flatten.mpr ⟨part.2,(List.of_mem_zip member).2,held⟩
  rw [grouped.text]
  refine (lines_join (oneRow_rows listable listed inside)).trans ?_
  rw [List.map_append,List.append_assoc]
  rfl

theorem read_render (listable : Listable lines entries) : read (render lines entries) = (lines,entries) := by
  obtain ⟨groups,⟨each,all,own,_⟩,rows⟩ := lines_render listable
  have inside : ∀ part ∈ lines.zip groups, ∀ entry ∈ part.2, entry ∈ entries := by
    intro part member entry held
    rw [← all]
    exact List.mem_flatten.mpr ⟨part.2,(List.of_mem_zip member).2,held⟩
  have inLines : ∀ (row : Nat) (part : String × List Diagnostic), (lines.zip groups)[row]? = some part →
      ∀ entry ∈ part.2, entry.line = ((0 + row + 1 : Nat) : Int) := by
    intro row part found entry member
    have group : groups[row]? = some part.2 := (List.getElem?_zip_eq_some.mp found).2
    rw [own row part.2 group entry member]
    omega
  have columns : ∀ part ∈ lines.zip groups, ∀ entry ∈ part.2, 1 ≤ entry.column :=
    fun part held entry mine => listable.columns entry (inside part held entry mine)
  have ranked : ∀ part ∈ lines.zip groups, ∀ entry ∈ part.2, 0 ≤ entry.number :=
    fun part held entry mine => Int.le_of_lt (number_of_listable listable entry (inside part held entry mine))
  have parts := readRows_parts inLines columns ranked [(summary entries).toList,[]]
  have firsts : (lines.zip groups).map Prod.fst = lines := List.map_fst_zip (Nat.le_of_eq each.symm)
  have seconds : (lines.zip groups).map Prod.snd = groups := List.map_snd_zip (Nat.le_of_eq each)
  rw [firsts,seconds,all] at parts
  rw [read,rows]
  exact parts

theorem render_injective {others : List String} {otherEntries : List Diagnostic} (listable : Listable lines entries)
    (alike : Listable others otherEntries) (same : render lines entries = render others otherEntries) :
    lines = others ∧ entries = otherEntries := by
  have reading := read_render listable
  rw [same,read_render alike] at reading
  obtain ⟨rfl,rfl⟩ := Prod.mk.inj reading
  exact ⟨rfl,rfl⟩

end PascalCheck.Listing
