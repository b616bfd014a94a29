import PascalCheck.Text.Line

namespace PascalCheck.Text

-- Each pair of a carriage return and a line feed, and each other carriage return, becomes one line feed.
def feeds : List Char → List Char
  | [] => []
  | '\r' :: '\n' :: rest => '\n' :: feeds rest
  | '\r' :: rest => '\n' :: feeds rest
  | c :: rest => c :: feeds rest

theorem normalize_eq_feeds (text : List Char) : normalize text = feeds text := by
  fun_induction feeds text with
  | case1 => rfl
  | case2 rest ih =>
    rw [← ih]
    rfl
  | case3 rest alone ih =>
    rw [← ih,normalize,foldPairs.eq_3 _ _ fun others _ => alone others]
    rfl
  | case4 c rest pair single ih =>
    have other : c ≠ '\r' := fun same => single same
    rw [← ih,normalize,foldPairs.eq_3 _ _ fun others same _ => other same,List.map_cons,if_neg other]
    rfl

theorem normalize_of_plain {text : List Char} (plain : '\r' ∉ text) : normalize text = text := by
  have unfolded : foldPairs text = text := by
    induction text with
    | nil => rfl
    | cons c others ih =>
      obtain ⟨other,plain⟩ := not_or.mp fun found => plain (List.mem_cons.mpr found)
      rw [foldPairs.eq_3,ih plain]
      rintro _ rfl
      exact absurd rfl other
  rw [normalize,unfolded]
  refine (List.map_congr_left fun c member => if_neg ?_).trans (List.map_id _)
  rintro rfl
  exact plain member

theorem normalize_normalize (text : List Char) : normalize (normalize text) = normalize text :=
  normalize_of_plain (not_mem_normalize text)

end PascalCheck.Text
