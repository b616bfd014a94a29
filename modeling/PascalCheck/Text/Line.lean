namespace PascalCheck.Text

-- Every carriage return that a line feed follows is dropped, in one pass.
def foldPairs : List Char → List Char
  | [] => []
  | '\r' :: '\n' :: rest => '\n' :: foldPairs rest
  | c :: rest => c :: foldPairs rest

def normalize (chars : List Char) : List Char :=
  (foldPairs chars).map fun c => if c = '\r' then '\n' else c

-- The parts between the separators; a text without one is its own single part.
def splitAt (separator : Char) : List Char → List (List Char)
  | [] => [[]]
  | c :: rest =>
    if c = separator then [] :: splitAt separator rest
    else match splitAt separator rest with
      | [] => [[c]]
      | part :: parts => (c :: part) :: parts

def joinWith (separator : Char) : List (List Char) → List Char
  | [] => []
  | [part] => part
  | part :: parts => part ++ separator :: joinWith separator parts

def lines (chars : List Char) : List (List Char) := splitAt '\n' chars

theorem not_mem_normalize (chars : List Char) : '\r' ∉ normalize chars := by
  intro member
  obtain ⟨c,_,same⟩ := List.mem_map.mp member
  split at same
  · exact absurd same (by decide)
  · exact absurd same ‹_›

theorem splitAt_ne_nil (separator : Char) (chars : List Char) : splitAt separator chars ≠ [] := by
  cases chars with
  | nil => simp [splitAt]
  | cons c rest =>
    simp only [splitAt]
    split
    · exact List.cons_ne_nil _ _
    · split <;> exact List.cons_ne_nil _ _

theorem joinWith_splitAt (separator : Char) (chars : List Char) :
    joinWith separator (splitAt separator chars) = chars := by
  induction chars with
  | nil => rfl
  | cons c rest ih =>
    simp only [splitAt]
    cases h : splitAt separator rest with
    | nil => exact absurd h (splitAt_ne_nil separator rest)
    | cons part parts =>
      rw [h] at ih
      split
      · rename_i same
        subst same
        rw [joinWith,ih]
        · rfl
        · simp
      · cases parts with
        | nil => simpa [joinWith] using ih
        | cons next others => simpa [joinWith] using ih

end PascalCheck.Text
