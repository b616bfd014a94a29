import PascalCheck.Files.Source
import PascalCheck.Proofs.Analysis.LineEnds
import PascalCheck.Proofs.Files.Store
import PascalCheck.Proofs.Text.Utf8

namespace PascalCheck

namespace Files

-- The bytes of a text: in UTF-8, behind a mark or not. A text that begins with the mark itself needs another.
inductive Encodes (chars : List Char) : List UInt8 → Prop
  | plain (unmarked : chars.head? ≠ some '\uFEFF') : Encodes chars (Text.Utf8.encode chars)
  | marked : Encodes chars (Text.Utf8.mark ++ Text.Utf8.encode chars)

theorem decode_of_encodes {chars : List Char} {bytes : List UInt8} (encodes : Encodes chars bytes) :
    Text.Utf8.decodeMarked bytes = .ok chars := by
  cases encodes with
  | plain unmarked => exact Text.Utf8.decodeMarked_plain unmarked
  | marked => exact Text.Utf8.decodeMarked_marked chars

theorem contents_of_encodes {chars : List Char} {bytes : List UInt8} (encodes : Encodes chars bytes) (path : Path) :
    contents path (.ok bytes) = .ok (Text.feeds chars) := by
  have opened : contents path (.ok bytes) =
      ((Text.Utf8.decodeMarked bytes).mapError (SourceError.ofFlaw path)).map Text.normalize := rfl
  rw [opened,decode_of_encodes encodes,← Text.normalize_eq_feeds]
  rfl

inductive Alike (file : String) : Except Fault Analysis → Except Scanner.Fault Analysis → Prop
  | checked {found plain : Analysis} (named : found.file = file) (lines : found.lines = plain.lines)
      (tokens : found.tokens = plain.tokens) (diagnostics : found.diagnostics = plain.diagnostics) :
      Alike file (.ok found) (.ok plain)
  | failed (fault : Scanner.Fault) : Alike file (.error (.scan fault)) (.error fault)

theorem alike_analyze (file other : String) (chars : List Char) :
    Alike file ((analyze file chars).mapError .scan) (analyze other chars) := by
  rw [analyze,analyze]
  cases (Scanner.ofText chars).scan with
  | finished scanner => exact .checked rfl rfl rfl rfl
  | stopped fault _ => exact .failed fault

variable {store : Store} {directory : Place} {home : Option String} {name : String} {path : Path}
variable {chars : List Char} {bytes : List UInt8}

theorem readSource_stored (named : sourcePath home name = .ok path) :
    (readSource (Access.stored directory) home name).run store =
      ((contents path (store.read directory path)).mapError .source,store) := by
  rw [readSource,named]
  rfl

theorem analyzeFile_stored (named : sourcePath home name = .ok path) :
    (analyzeFile (Access.stored directory) directory home name).run store =
      (match contents (path.resolved directory) (store.read directory (path.resolved directory)) with
        | .error error => .error (.source error)
        | .ok chars => (analyze (path.resolved directory).text chars).mapError .scan,store) := by
  rw [analyzeFile,named]
  cases read : contents (path.resolved directory) (store.read directory (path.resolved directory)) with
  | error error =>
    simp only [StateT.run,bind,StateT.bind,Access.stored,Access.storedOn,read]
    rfl
  | ok chars =>
    simp only [StateT.run,bind,StateT.bind,Access.stored,Access.storedOn,read]
    rfl

-- A file that spells a text is read as the text with line feeds for its line ends. Its check gives what a check
-- of the text gives, and names the resolved path, which leads to the same file where everything hangs together.
theorem file_is_its_text (store : Store) (directory : Place) (home : Option String) (name : String) (path : Path)
    (named : sourcePath home name = .ok path) (chars : List Char) (bytes : List UInt8) (encodes : Encodes chars bytes) :
    (store.read directory path = .ok bytes →
      (readSource (Access.stored directory) home name).run store = (.ok (Text.feeds chars),store)) ∧
    (store.read directory (path.resolved directory) = .ok bytes → ∀ file, ∃ outcome,
      (analyzeFile (Access.stored directory) directory home name).run store = (outcome,store) ∧
        Alike (path.resolved directory).text outcome (analyze file chars)) ∧
    (store.Tree → (path.resolved directory).text.utf8ByteSize ≤ maxPath → store.read directory path = .ok bytes →
      store.read directory (path.resolved directory) = .ok bytes) := by
  refine ⟨?_,?_,fun tree short held => Store.read_resolved tree short held⟩
  · intro held
    rw [readSource_stored named,held,contents_of_encodes encodes]
    rfl
  · intro held file
    refine ⟨_,analyzeFile_stored named,?_⟩
    rw [held,contents_of_encodes encodes,← Text.normalize_eq_feeds]
    dsimp only
    rw [analyze_normalize]
    exact alike_analyze _ file chars

-- A file in a directory, reached by a step up, with a mark in front and line ends of all three kinds.
def markedBytes : List UInt8 := Text.Utf8.mark ++ Text.Utf8.encode "a\r\nÄ\r1\n".toList

def markedStore : Store := (Store.put {} ["d"] .directory).put ["d","s"] (.file markedBytes)

theorem tree_marked : markedStore.Tree := by
  have made : (Store.put {} ["d"] .directory).Tree :=
    Store.tree_put Store.tree_empty (Or.inr ⟨[],"d",rfl,rfl,by decide,by decide⟩) (by decide) _
  exact Store.tree_put made (Or.inr ⟨["d"],"s",rfl,by decide,by decide,by decide⟩) (by decide) _

theorem file_is_its_text_marked :
    sourcePath none "../d/s" = .ok ⟨.here,["..","d","s"]⟩ ∧
    (readSource (Access.stored ["d"]) none "../d/s").run markedStore = (.ok "a\nÄ\n1\n".toList,markedStore) ∧
    ∃ outcome, (analyzeFile (Access.stored ["d"]) ["d"] none "../d/s").run markedStore = (outcome,markedStore) ∧
      Alike "/d/s" outcome (analyze "t" "a\r\nÄ\r1\n".toList) := by
  have named : sourcePath none "../d/s" = .ok ⟨.here,["..","d","s"]⟩ := rfl
  have held : markedStore.read ["d"] ⟨.here,["..","d","s"]⟩ = .ok markedBytes := rfl
  obtain ⟨text,checked,resolved⟩ := file_is_its_text markedStore ["d"] none "../d/s" _ named _ _ .marked
  have again := resolved tree_marked (by decide) held
  exact ⟨named,text held,checked again "t"⟩

end Files

end PascalCheck
