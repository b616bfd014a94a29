import Mathlib.Data.List.Induction
import PascalCheck.Files.Store

namespace PascalCheck.Files

namespace Store

structure Tree (store : Store) : Prop where
  parent : ∀ place name, store.entryAt? (place ++ [name]) ≠ none → store.entryAt? place = some .directory
  named : ∀ place name, store.entryAt? (place ++ [name]) ≠ none → name ≠ ".." ∧ name.utf8ByteSize ≤ maxName

variable {store changed : Store} {directory place target : Place} {path : Path} {parts : List String} {bytes : List UInt8}

theorem tree_empty : Tree {} where
  parent place name there := by
    rw [entryAt?,if_neg (List.concat_ne_nil name place)] at there
    exact absurd rfl there
  named place name there := by
    rw [entryAt?,if_neg (List.concat_ne_nil name place)] at there
    exact absurd rfl there

-- A place that is a directory, or that names something in one.
def Sits (store : Store) (place : Place) : Prop :=
  store.entryAt? place = some .directory ∨
    ∃ parent name, place = parent ++ [name] ∧ store.entryAt? parent = some .directory ∧
      name ≠ ".." ∧ name.utf8ByteSize ≤ maxName

theorem sits_of_enter (tree : store.Tree) (here : store.entryAt? place = some .directory) {part : String}
    (short : part.utf8ByteSize ≤ maxName) : store.Sits (Path.enter place part) := by
  unfold Path.enter
  split
  · refine Or.inl ?_
    cases place using List.reverseRecOn with
    | nil => rfl
    | append_singleton above name =>
      rw [List.dropLast_concat]
      exact tree.parent above name (by rw [here]; exact Option.some_ne_none _)
  · rename_i other
    exact Or.inr ⟨place,part,rfl,here,other,short⟩

theorem sits_of_walk (tree : store.Tree) (sits : store.Sits place) (walked : store.walk place parts = .ok target) :
    store.Sits target := by
  induction parts generalizing place with
  | nil =>
    cases walked
    exact sits
  | cons part parts ih =>
    rw [walk] at walked
    split at walked
    · cases walked
    · cases walked
    · rename_i here
      split at walked
      · cases walked
      · rename_i short
        exact ih (sits_of_enter tree here (Nat.not_lt.mp short)) walked

theorem sits_of_find (tree : store.Tree) (here : store.entryAt? directory = some .directory)
    (found : store.find directory path = .ok target) : store.Sits target := by
  have start : store.Sits (if path.start = .here then directory else []) := by
    split
    · exact Or.inl here
    · exact Or.inl rfl
  rw [find] at found
  split at found
  · cases found
  · exact sits_of_walk tree start found

-- Nothing stands in what is no directory, so nothing is lost when something is put there.
theorem tree_put (tree : store.Tree) (sits : store.Sits place) (other : store.entryAt? place ≠ some .directory)
    (entry : Entry) : (store.put place entry).Tree := by
  obtain here | ⟨above,name,rfl,parent,known⟩ := sits
  · exact absurd here other
  have below : above ++ [name] ≠ [] := List.concat_ne_nil name above
  have kept : ∀ there, store.entryAt? there = some .directory →
      (store.put (above ++ [name]) entry).entryAt? there = some .directory := by
    intro there held
    rw [entryAt?_put store _ there entry below,if_neg]
    · exact held
    · rintro rfl
      exact other held
  have old : ∀ there last, (store.put (above ++ [name]) entry).entryAt? (there ++ [last]) ≠ none →
      (there = above ∧ last = name) ∨ store.entryAt? (there ++ [last]) ≠ none := by
    intro there last some
    rw [entryAt?_put store _ _ entry below] at some
    split at some
    · rename_i same
      exact Or.inl (List.append_singleton_inj.mp same)
    · exact Or.inr some
  constructor
  · intro there last some
    rcases old there last some with ⟨rfl,rfl⟩ | before
    · exact kept _ parent
    · exact kept _ (tree.parent there last before)
  · intro there last some
    rcases old there last some with ⟨rfl,rfl⟩ | before
    · exact known
    · exact tree.named there last before

theorem read_ok_iff : store.read directory path = .ok bytes ↔
    ∃ place, store.find directory path = .ok place ∧ store.entryAt? place = some (.file bytes) := by
  unfold Store.read
  cases store.find directory path with
  | error obstacle =>
    constructor
    · intro held
      cases held
    · rintro ⟨_,⟨⟩,_⟩
  | ok place =>
    simp only [bind,Except.bind,Except.ok.injEq,exists_eq_left']
    cases store.entryAt? place with
    | none => simp
    | some entry => cases entry <;> simp

theorem write_cases (store : Store) (directory : Place) (path : Path) :
    (∃ obstacle, ∀ bytes, store.write directory path bytes = .error obstacle) ∨
      ∃ place, store.find directory path = .ok place ∧ store.entryAt? place ≠ some .directory ∧
        ∀ bytes, store.write directory path bytes = .ok (store.put place (.file bytes)) := by
  unfold Store.write
  cases store.find directory path with
  | error obstacle => exact Or.inl ⟨obstacle,fun _ => rfl⟩
  | ok place =>
    simp only [bind,Except.bind]
    cases there : store.entryAt? place with
    | none => exact Or.inr ⟨place,rfl,by simp [there],fun _ => rfl⟩
    | some entry =>
      cases entry with
      | directory => exact Or.inl ⟨_,fun _ => rfl⟩
      | file _ => exact Or.inr ⟨place,rfl,by simp [there],fun _ => rfl⟩

theorem tree_write (tree : store.Tree) (here : store.entryAt? directory = some .directory)
    (written : store.write directory path bytes = .ok changed) : changed.Tree := by
  rcases write_cases store directory path with ⟨obstacle,met⟩ | ⟨place,found,other,put⟩
  · rw [met bytes] at written
    cases written
  · rw [put bytes] at written
    cases written
    exact tree_put tree (sits_of_find tree here found) other _

theorem tree_makeDirectory (tree : store.Tree) (here : store.entryAt? directory = some .directory)
    (made : store.makeDirectory directory path = .ok changed) : changed.Tree := by
  unfold Store.makeDirectory at made
  cases found : store.find directory path with
  | error obstacle =>
    rw [found] at made
    cases made
  | ok place =>
    rw [found] at made
    simp only [bind,Except.bind] at made
    split at made
    · cases made
    · rename_i free
      cases made
      exact tree_put tree (sits_of_find tree here found) (by rw [free]; exact (Option.some_ne_none _).symm) _

theorem walk_append (store : Store) (place : Place) (front parts : List String) :
    store.walk place (front ++ parts) = store.walk place front >>= fun middle => store.walk middle parts := by
  induction front generalizing place with
  | nil => rfl
  | cons part front ih =>
    rw [List.cons_append,walk,walk]
    cases store.entryAt? place with
    | none => rfl
    | some entry =>
      cases entry with
      | file bytes => rfl
      | directory =>
        dsimp only
        split
        · rfl
        · exact ih _

theorem place_of_walk (walked : store.walk place parts = .ok target) : target = parts.foldl Path.enter place := by
  induction parts generalizing place with
  | nil => exact (Except.ok.inj walked).symm
  | cons part parts ih =>
    rw [walk] at walked
    split at walked
    · cases walked
    · cases walked
    · split at walked
      · cases walked
      · exact ih walked

theorem place_of_find (found : store.find directory path = .ok place) : place = path.place directory := by
  rw [find] at found
  split at found
  · cases found
  · exact place_of_walk found

theorem walk_down (tree : store.Tree) (place : Place) (there : store.entryAt? place ≠ none) :
    store.walk [] place = .ok place := by
  induction place using List.reverseRecOn with
  | nil => rfl
  | append_singleton place name ih =>
    have parent := tree.parent place name there
    obtain ⟨other,short⟩ := tree.named place name there
    rw [walk_append,ih (by rw [parent]; exact Option.some_ne_none _)]
    change store.walk place [name] = _
    rw [walk,parent]
    dsimp only
    rw [if_neg (Nat.not_lt.mpr short),walk,Path.enter,if_neg other]

theorem read_resolved (tree : store.Tree) (short : (path.resolved directory).text.utf8ByteSize ≤ maxPath)
    (held : store.read directory path = .ok bytes) :
    store.read directory (path.resolved directory) = .ok bytes := by
  obtain ⟨place,found,file⟩ := read_ok_iff.mp held
  have there : store.entryAt? place ≠ none := by
    rw [file]
    exact Option.some_ne_none _
  have again : store.find directory (path.resolved directory) = .ok place := by
    rw [find,if_neg (Nat.not_lt.mpr short),← walk_down tree place there,place_of_find found]
    rfl
  exact read_ok_iff.mpr ⟨place,again,file⟩

end Store

end PascalCheck.Files
