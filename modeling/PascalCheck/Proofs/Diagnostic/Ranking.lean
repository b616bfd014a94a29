import Mathlib.Data.List.Pairwise
import PascalCheck.Proofs.Diagnostic.Rows

namespace PascalCheck

namespace Diagnostic

variable {one two : List Diagnostic}

def unnumbered (entry : Diagnostic) : Diagnostic := { entry with number := 0 }

def standsAt (line column : Int) (entry : Diagnostic) : Bool := entry.line == line && entry.column == column

-- Items in reading order, those of one place as they come in the list.
structure StableSort (sorted items : List Diagnostic) : Prop where
  ordered : sorted.Pairwise fun a b => notAfter a b = true
  kept : ∀ line column, sorted.filter (standsAt line column) = items.filter (standsAt line column)

theorem standsAt_self (entry : Diagnostic) : standsAt entry.line entry.column entry = true := by simp [standsAt]

theorem filter_unnumbered (line column : Int) (entries : List Diagnostic) :
    (entries.map unnumbered).filter (standsAt line column) = (entries.filter (standsAt line column)).map unnumbered :=
  List.filter_map

theorem unnumbered_numbered (entries : List Diagnostic) : (numbered entries).map unnumbered = entries.map unnumbered := by
  apply List.ext_getElem
  · simp [numbered]
  · intro i _ _
    simp [numbered,unnumbered]

theorem numbered_unnumbered (entries : List Diagnostic) : numbered (entries.map unnumbered) = numbered entries := by
  apply List.ext_getElem
  · simp [numbered]
  · intro i _ _
    simp [numbered,unnumbered]

theorem filter_mergeSort (line column : Int) (entries : List Diagnostic) :
    (entries.mergeSort notAfter).filter (standsAt line column) = entries.filter (standsAt line column) := by
  have level : (entries.filter (standsAt line column)).Pairwise fun a b => notAfter a b = true := by
    apply List.pairwise_of_forall_mem_list
    intro a here b there
    have first := (List.mem_filter.mp here).2
    have second := (List.mem_filter.mp there).2
    simp only [standsAt,Bool.and_eq_true,beq_iff_eq] at first second
    simp [notAfter,first,second]
  have inside := (List.sublist_mergeSort notAfter_trans notAfter_total level List.filter_sublist).filter
    (standsAt line column)
  rw [List.filter_filter] at inside
  simp only [Bool.and_self] at inside
  have size := ((List.mergeSort_perm entries notAfter).filter (standsAt line column)).length_eq
  exact (inside.eq_of_length size.symm).symm

theorem mem_of_filters (same : ∀ line column, one.filter (standsAt line column) = two.filter (standsAt line column))
    {entry : Diagnostic} (member : entry ∈ one) : entry ∈ two := by
  have found : entry ∈ one.filter (standsAt entry.line entry.column) :=
    List.mem_filter.mpr ⟨member,standsAt_self entry⟩
  rw [same] at found
  exact (List.mem_filter.mp found).1

theorem perm_of_filters (same : ∀ line column, one.filter (standsAt line column) = two.filter (standsAt line column)) :
    one.Perm two := by
  rw [List.perm_iff_count]
  intro entry
  have count := congrArg (List.count entry) (same entry.line entry.column)
  rwa [List.count_filter (standsAt_self entry),List.count_filter (standsAt_self entry)] at count

-- There is one way only to put items into a stable order.
theorem StableSort.unique {items : List Diagnostic} (first : StableSort one items) (second : StableSort two items) :
    one = two := by
  have order := first.ordered
  have others := second.ordered
  have same : ∀ line column, one.filter (standsAt line column) = two.filter (standsAt line column) :=
    fun line column => (first.kept line column).trans (second.kept line column).symm
  clear first second
  induction one generalizing two with
  | nil => exact (perm_of_filters same).nil_eq
  | cons a one ih =>
    cases two with
    | nil => exact (perm_of_filters same).eq_nil
    | cons b two =>
      obtain ⟨least,order⟩ := List.pairwise_cons.mp order
      obtain ⟨lowest,ordered⟩ := List.pairwise_cons.mp others
      -- each head stands in the other list, behind a head that is not after it
      have place : standsAt a.line a.column b = true := by
        have up : a = b ∨ notAfter a b = true := by
          rcases List.mem_cons.mp (mem_of_filters (fun line column => (same line column).symm) List.mem_cons_self)
            with equal | later
          · exact Or.inl equal.symm
          · exact Or.inr (least b later)
        have down : b = a ∨ notAfter b a = true := by
          rcases List.mem_cons.mp (mem_of_filters same List.mem_cons_self) with equal | later
          · exact Or.inl equal.symm
          · exact Or.inr (lowest a later)
        rcases up with rfl | up
        · exact standsAt_self a
        rcases down with rfl | down
        · exact standsAt_self b
        simp only [notAfter,Bool.or_eq_true,Bool.and_eq_true,decide_eq_true_eq,beq_iff_eq] at up down
        simp only [standsAt,Bool.and_eq_true,beq_iff_eq]
        omega
      have heads := same a.line a.column
      rw [List.filter_cons_of_pos (standsAt_self a),List.filter_cons_of_pos place] at heads
      obtain ⟨rfl,_⟩ := List.cons.inj heads
      congr 1
      apply ih order ordered
      intro line column
      have tails := same line column
      rw [List.filter_cons,List.filter_cons] at tails
      split at tails
      · exact (List.cons.inj tails).2
      · exact tails

end Diagnostic

namespace Sink
open Diagnostic

inductive Call where
  | report (code : Int) (place : Position) (message : Option String)
  | rank

def Call.run : Call → Sink → Sink
  | .report code place message,sink => sink.report code place message
  | .rank,sink => sink.ranked

def made (calls : List Call) (sink : Sink) : Sink := calls.foldl (fun state call => call.run state) sink

def Call.told? : Call → Option Diagnostic
  | .report code place message => some {
      line := place.line + 1
      column := place.column + 1
      code := code
      number := 0
      message := message.getD (Problem.messageOf code) }
  | .rank => none

def reports (calls : List Call) : List Diagnostic := calls.filterMap Call.told?

theorem reports_append (calls others : List Call) : reports (calls ++ others) = reports calls ++ reports others :=
  List.filterMap_append

-- A sink that has taken some reports: numbered as they stand, and at each place in the order they were made.
structure Holds (told : List Diagnostic) (sink : Sink) : Prop where
  numbers : sink.toList.map number = (List.range sink.toList.length).map fun i : Nat => (i : Int) + 1
  kept : ∀ line column, (sink.toList.map unnumbered).filter (standsAt line column) = told.filter (standsAt line column)

variable {told : List Diagnostic} {sink : Sink}

theorem holds_call (holds : Holds told sink) (call : Call) : Holds (told ++ call.told?.toList) (call.run sink) := by
  cases call with
  | report code place message =>
    constructor
    · simp only [Call.run,toList_report,List.map_append,holds.numbers,List.length_append,List.length_singleton,
        List.range_succ]
      rfl
    · intro line column
      simp only [Call.run,toList_report,List.map_append,List.filter_append,holds.kept]
      rfl
  | rank =>
    constructor
    · exact numbers_ranked sink
    · intro line column
      have same := holds.kept line column
      rw [filter_unnumbered] at same
      simp only [Call.run,toList_ranked,unnumbered_numbered,Call.told?,Option.toList_none,List.append_nil]
      rw [filter_unnumbered,filter_mergeSort,same]

theorem holds_made (holds : Holds told sink) (calls : List Call) : Holds (told ++ reports calls) (made calls sink) := by
  induction calls generalizing told sink with
  | nil => rwa [reports,List.filterMap_nil,List.append_nil]
  | cons call others ih =>
    have rest := ih (holds_call holds call)
    rw [List.append_assoc] at rest
    have split : reports (call :: others) = call.told?.toList ++ reports others := by
      cases call <;> rfl
    rwa [split]

theorem stableSort_ranked (holds : Holds told sink) : StableSort (sink.ranked.toList.map unnumbered) told := by
  constructor
  · rw [toList_ranked,unnumbered_numbered,List.pairwise_map]
    exact List.pairwise_mergeSort notAfter_trans notAfter_total sink.toList
  · have kept := (holds_call holds .rank).kept
    rwa [Call.told?,Option.toList_none,List.append_nil] at kept

theorem holds_reports (calls : List Call) : Holds (reports calls) (made calls {}) := by
  have start : Holds [] {} := ⟨rfl,fun _ _ => rfl⟩
  exact holds_made start calls

theorem ranked_eq_numbered (sink : Sink) : sink.ranked.toList = numbered (sink.ranked.toList.map unnumbered) := by
  rw [toList_ranked,unnumbered_numbered,numbered_unnumbered]

theorem ranked_of_reports {calls others : List Call} (same : reports calls = reports others) :
    (made calls {}).ranked = (made others {}).ranked := by
  have first := stableSort_ranked (holds_reports calls)
  have second := stableSort_ranked (holds_reports others)
  rw [same] at first
  have equal : (made calls {}).ranked.toList = (made others {}).ranked.toList := by
    rw [ranked_eq_numbered,first.unique second,← ranked_eq_numbered]
  exact congrArg Sink.mk (Array.toList_inj.mp equal)

-- After any reports and rankings, in any order: how the entries stand, and what a ranking makes of them.
theorem ranking_is_stable (calls earlier later : List Call) :
    let sink := made calls {}
    sink.toList.map number = (List.range sink.toList.length).map (fun i : Nat => (i : Int) + 1) ∧
      (sink.toList.map unnumbered).Perm (reports calls) ∧
      sink.ranked.toList.map number = (List.range (reports calls).length).map (fun i : Nat => (i : Int) + 1) ∧
      StableSort (sink.ranked.toList.map unnumbered) (reports calls) ∧
      sink.ranked.ranked = sink.ranked ∧
      (made (earlier ++ .rank :: later) {}).ranked = (made (earlier ++ later) {}).ranked := by
  intro sink
  have holds : Holds (reports calls) sink := holds_reports calls
  have said : (sink.toList.map unnumbered).Perm (reports calls) := perm_of_filters holds.kept
  have size : sink.ranked.toList.length = (reports calls).length := by
    have kept := said.length_eq
    rw [List.length_map] at kept
    rw [← kept]
    exact size_ranked sink
  have numbers := numbers_ranked sink
  rw [size] at numbers
  have again : reports (calls ++ [.rank]) = reports calls := by
    rw [reports_append]
    exact List.append_nil _
  have settled := ranked_of_reports again
  rw [made,List.foldl_append] at settled
  have between : reports (earlier ++ .rank :: later) = reports (earlier ++ later) := by
    rw [reports_append,reports_append]
    rfl
  exact ⟨holds.numbers,said,numbers,stableSort_ranked holds,settled,ranked_of_reports between⟩

end Sink

end PascalCheck
