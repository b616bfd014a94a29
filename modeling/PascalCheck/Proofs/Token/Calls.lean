import PascalCheck.Proofs.Source.Orientation
import PascalCheck.Token.Scanner

namespace PascalCheck.Scanner
open Cursor (Led Oriented)

inductive Call where
  | advance
  | look (distance : Int)
  | tell (code : Int) (place : Option Position) (message : Option String)
  | scan | number | word | string | mark
  | comment (closer : List Char)

-- A look leads to no other state, be it one that is refused.
def Call.run : Call → Scanner → Outcome Fault Scanner
  | .advance,scanner => .finished (scanner.advanceBy 1)
  | .look _,scanner => .finished scanner
  | .tell code place message,scanner => .finished { scanner with cursor := scanner.cursor.tell code place message }
  | .scan,scanner => scanner.scan
  | .number,scanner => scanner.number
  | .word,scanner => scanner.word
  | .string,scanner => scanner.string
  | .mark,scanner => scanner.mark
  | .comment closer,scanner => scanner.comment closer

def made (calls : List Call) (scanner : Scanner) : Scanner :=
  calls.foldl (fun state call => (call.run state).after) scanner

def Leads (part : Scanner → Outcome Fault Scanner) : Prop := ∀ scanner, Led scanner.cursor (part scanner).after.cursor

theorem led_advanceBy (scanner : Scanner) (count : Nat) : Led scanner.cursor (scanner.advanceBy count).cursor :=
  Led.here.advanceBy count

theorem leads_number : Leads number := by
  intro scanner
  have passed := led_advanceBy scanner (scanner.rest.takeWhile Text.isDigit).length
  simp only [number]
  split
  · exact passed
  split
  · exact passed
  -- the token that a number gives leaves the cursor alone, the report on one that is too great does not move it
  rw [Outcome.after_finished]
  split
  · split
    · exact passed.report _ _ _
    · exact passed
  · split
    · exact passed.report _ _ _
    · exact passed

theorem leads_word : Leads word := fun scanner => led_advanceBy scanner _

theorem leads_string : Leads string := by
  intro scanner
  have opened := led_advanceBy scanner 1
  simp only [string]
  split
  · exact (opened.advanceBy _).advanceBy 1
  · exact (opened.advanceBy _).report _ _ _

theorem leads_mark : Leads mark := by
  intro scanner
  simp only [mark]
  split
  · exact led_advanceBy scanner 2
  split
  · exact led_advanceBy scanner 1
  · exact (led_advanceBy scanner 1).report _ _ _

theorem leads_comment (closer : List Char) : Leads (comment closer) := by
  intro scanner
  have opened := led_advanceBy scanner (openerSize closer)
  cases closer with
  | nil =>
    simp only [comment]
    split
    · exact opened.report _ _ _
    · exact opened
  | cons first others =>
    simp only [comment]
    split
    · exact (opened.advanceBy _).report _ _ _
    · exact (opened.advanceBy _).advanceBy _

theorem leads_step : Leads step := by
  intro scanner
  simp only [step]
  split
  · exact led_advanceBy scanner 1
  split
  · exact leads_comment _ scanner
  split
  · split
    · exact leads_comment _ scanner
    · exact led_advanceBy scanner 1
  split
  · exact leads_number scanner
  split
  · exact leads_word scanner
  split
  · exact leads_string scanner
  · exact leads_mark scanner

theorem leads_scan : Leads scan := by
  intro scanner
  induction left : scanner.rest.length using Nat.strong_induction_on generalizing scanner with
  | _ size ih =>
    by_cases done : scanner.rest = []
    · rw [scan_at_end scanner done]
      exact .here
    · have stepped := leads_step scanner
      have shorter := step_shorter scanner done
      rw [scan_step scanner done]
      cases step : scanner.step with
      | stopped fault state => rwa [step] at stepped
      | finished state =>
        rw [step] at stepped shorter
        exact stepped.trans (ih _ (left ▸ shorter) state rfl)

theorem leads_call (call : Call) : Leads call.run := by
  cases call with
  | advance => exact fun scanner => led_advanceBy scanner 1
  | look distance => exact fun _ => .here
  | tell code place message => exact fun _ => Led.here.report _ _ _
  | scan => exact leads_scan
  | number => exact leads_number
  | word => exact leads_word
  | string => exact leads_string
  | mark => exact leads_mark
  | comment closer => exact leads_comment closer

theorem led_made (calls : List Call) (scanner : Scanner) : Led scanner.cursor (scanner.made calls).cursor := by
  induction calls generalizing scanner with
  | nil => exact .here
  | cons call others ih =>
    have first : Led scanner.cursor (call.run scanner).after.cursor := leads_call call scanner
    exact first.trans (ih _)

theorem calls_keep_orientation (chars : List Char) (sink : Sink) (calls : List Call) :
    Oriented (Text.normalize chars) (made calls { cursor := .atStart chars sink }).cursor :=
  ((Cursor.follows_atStart chars sink).led (led_made calls { cursor := .atStart chars sink })).oriented

end PascalCheck.Scanner
