import PascalCheck.Proofs.CommandLine.Asked
import PascalCheck.Proofs.Files.Contents

namespace PascalCheck.CommandLine

-- Ends that come of the source, the request or the files, and not of the disk or the console that is written to.
def Conclusion.Fails : Conclusion → Prop
  | .exit status => status = 2
  | .lack (.outlet _) => False
  | _ => True

inductive Console.Closes (console : Console) (status : Nat) (texts : List String) : Conclusion → String → Prop
  | whole : Closes console status texts (.exit status) (String.join texts)
  | refused {front back : List String} {text why : String} (split : texts = front ++ text :: back)
      (refuses : console.refusal? text = some why) : Closes console status texts (.lack (.outlet why)) (String.join front)

namespace Check
open Files (Access Disk Place Path Store)
open Usage (Line)

def told (settings : Settings) (analysis : Analysis) : String :=
  if settings.debug then eventLines analysis.events else ""

def codeBytes (settings : Settings) (analysis : Analysis) : List UInt8 :=
  Text.Utf8.encode (analysis.tokenCodes settings.wire).toList

def check (directory : Place) (home : Option String) (request : Request) (store : Store) : Except Files.Fault Analysis :=
  ((Files.analyzeFile (Access.stored directory) directory home request.source).run store).1

structure TokenPlace (directory : Place) (request : Request) (store : Store) (place : Place) : Prop where
  writes : request.writesTokens = true
  found : ∃ out, request.tokensOut = some out ∧ store.find directory (Path.ofText out) = .ok place

-- The token file that is asked for cannot be opened, whatever it is to hold.
structure Unwritable (directory : Place) (request : Request) (store : Store) : Prop where
  writes : request.writesTokens = true
  barred : ∀ out path, request.tokensOut = some out → (Path.ofText out).usable = .ok path →
    ∀ bytes, ∃ obstacle, store.write directory path bytes = .error obstacle

def Holds (directory : Place) (request : Request) (store changed : Store) (bytes : List UInt8) : Prop :=
  ∃ place, TokenPlace directory request store place ∧ changed.entryAt? place = some (.file bytes) ∧
    ∀ other, other ≠ place → changed.entryAt? other = store.entryAt? other

structure Stored (directory : Place) (request : Request) (settings : Settings) (store : Store) (analysis : Analysis)
    (changed : Store) : Prop where
  quiet : request.writesTokens = false → changed = store
  written : request.writesTokens = true → Holds directory request store changed (codeBytes settings analysis)

variable {console : Console} {disk : Disk} {directory : Place} {home : Option String} {request : Request}
variable {analysis : Analysis} {store : Store}

-- What is left when the token file could be opened. Of the report nothing plays a part in whether the disk takes the codes.
def opened (disk : Disk) (store : Store) (place : Place) (bytes : List UInt8) (report : Report) : Report × Store :=
  (match disk.cut? store bytes with
    | some (_,why) => { report with conclusion := .lack (.outlet why), output := "" }
    | none => report,
  store.put place (.file (disk.taken store bytes)))

section
variable (checked : check directory home request store = .ok analysis)
include checked

end

structure Leaves (console : Console) (disk : Disk) (directory : Place) (home : Option String) (request : Request)
    (settings : Settings) (store : Store) (report : Report) (changed : Store) : Prop where
  nothing : report.conclusion.Fails → report.output = "" ∧ changed = store ∧
    ((∃ fault, check directory home request store = .error fault) ∨ Unwritable directory request store)
  listing : ∀ status, report.conclusion = .exit status → status ≠ 2 → ∃ analysis,
    check directory home request store = .ok analysis ∧ status = (if analysis.diagnostics = [] then 0 else 1) ∧
      (∃ note, report.output = note ++ analysis.listing) ∧ Stored directory request settings store analysis changed
  refused : ∀ why, report.conclusion = .lack (.outlet why) → ∃ analysis,
    check directory home request store = .ok analysis ∧
      ((∃ text behind note, console.refusal? text = some why ∧
          report.output ++ text ++ behind = note ++ analysis.listing ∧
          Stored directory request settings store analysis changed) ∨
        ∃ count, disk.cut? store (codeBytes settings analysis) = some (count,why) ∧ report.output = "" ∧
          Holds directory request store changed ((codeBytes settings analysis).take count))

theorem status_eq (analysis : Analysis) : status analysis = if analysis.diagnostics = [] then 0 else 1 := by
  simp only [status,Analysis.ok,List.isEmpty_iff]

variable {behaviour : Settings → Report × Store}

theorem Leaves.unread {settings : Settings} {report : Report} {changed : Store} {fault : Files.Fault}
    (leaves : Leaves console disk directory home request settings store report changed)
    (failed : check directory home request store = .error fault) :
    report.conclusion.Fails ∧ report.output = "" ∧ changed = store := by
  have fails : report.conclusion.Fails := by
    match ended : report.conclusion with
    | .exit status =>
      by_contra other
      obtain ⟨_,checked,_⟩ := leaves.listing status ended other
      rw [failed] at checked
      cases checked
    | .lack (.outlet why) =>
      obtain ⟨_,checked,_⟩ := leaves.refused why ended
      rw [failed] at checked
      cases checked
    | .lack .path | .lack .seed | .lack .count | .fault _ => trivial
  obtain ⟨output,same,_⟩ := leaves.nothing fails
  exact ⟨fails,output,same⟩

-- Where the disk and the console take everything, a checked source is listed unless its token file cannot be opened.
theorem Leaves.listed {settings : Settings} {report : Report} {changed : Store}
    (leaves : Leaves {} {} directory home request settings store report changed)
    (checked : check directory home request store = .ok analysis) (writable : ¬ Unwritable directory request store) :
    report.conclusion = .exit (status analysis) ∧ (∃ note, report.output = note ++ analysis.listing) ∧
      Stored directory request settings store analysis changed := by
  have succeeds : ¬ report.conclusion.Fails := by
    intro fails
    obtain ⟨_,_,⟨fault,failed⟩ | barred⟩ := leaves.nothing fails
    · rw [failed] at checked
      cases checked
    · exact writable barred
  match ended : report.conclusion with
  | .exit status =>
    obtain ⟨other,again,told,listed,stored⟩ := leaves.listing status ended fun two => succeeds (by rw [ended]; exact two)
    rw [checked] at again
    cases again
    exact ⟨by rw [told,status_eq],listed,stored⟩
  | .lack (.outlet why) =>
    obtain ⟨_,_,⟨_,_,_,refuses,_⟩ | ⟨_,cut,_⟩⟩ := leaves.refused why ended
    · cases refuses
    · cases cut
  | .lack .path | .lack .seed | .lack .count | .fault _ => exact absurd (by rw [ended]; trivial) succeeds

def Cut (disk : Disk) (store : Store) (report : Report) : Prop :=
  ∃ bytes count why, disk.cut? store bytes = some (count,why) ∧ report.conclusion = .lack (.outlet why) ∧ report.output = ""

end Check
end PascalCheck.CommandLine
