import PascalCheck.Text.Letter
import PascalCheck.Text.Numeral
import PascalCheck.Text.Padded

namespace PascalCheck.Text

theorem isDigit_iff (c : Char) : isDigit c = true ↔ 48 ≤ c.toNat ∧ c.toNat ≤ 57 := by
  simp only [isDigit,Bool.and_eq_true,decide_eq_true_eq,Char.le_def,UInt32.le_iff_toNat_le]
  rfl

def digitsValue (digits : List Char) : Nat := valueOf (digits.map fun c => c.toNat - '0'.toNat)

def integerValue : List Char → Int
  | '-' :: digits => -(digitsValue digits : Int)
  | digits => digitsValue digits

theorem digits_written (n : Nat) :
    (toString n).toList ≠ [] ∧ (∀ c ∈ (toString n).toList, isDigit c = true) ∧ digitsValue (toString n).toList = n := by
  have digits : (toString n).toList = Nat.toDigits 10 n := Nat.toList_repr
  rw [digits]
  refine ⟨Nat.toDigits_ne_nil,fun c member => ?_,?_⟩
  · have digit := Nat.isDigit_of_mem_toDigits (by decide) (by decide) member
    rw [isDigit_iff]
    simpa [Char.isDigit,UInt32.le_iff_toNat_le] using digit
  · rw [digitsValue,valueOf,List.foldl_map]
    exact Nat.ofDigitChars_ten_toDigits

theorem digitsValue_zeros (count : Nat) (digits : List Char) :
    digitsValue (List.replicate count '0' ++ digits) = digitsValue digits := by
  induction count with
  | zero => rfl
  | succ count ih =>
    rw [List.replicate_succ,List.cons_append,← ih]
    rfl

theorem zeroPadded_unsigned (width : Nat) {n : Int} (plain : 0 ≤ n) :
    zeroPadded width n = fill '0' width (toString n.natAbs).toList ++ (toString n.natAbs).toList := if_neg (by omega)

theorem zeroPadded_written (width : Nat) {n : Int} (plain : 0 ≤ n) :
    (∀ c ∈ zeroPadded width n, isDigit c = true) ∧ (digitsValue (zeroPadded width n) : Int) = n := by
  obtain ⟨_,all,value⟩ := digits_written n.natAbs
  rw [zeroPadded_unsigned width plain,fill,digitsValue_zeros,value]
  constructor
  · intro c member
    rcases List.mem_append.mp member with zero | digit
    · rw [(List.mem_replicate.mp zero).2]
      rfl
    · exact all c digit
  · omega

theorem integer_written (n : Int) :
    (∀ c ∈ (toString n).toList, c = '-' ∨ isDigit c = true) ∧ integerValue (toString n).toList = n := by
  cases n with
  | ofNat k =>
    obtain ⟨some,all,value⟩ := digits_written k
    have unsigned : (toString (Int.ofNat k)).toList = (toString k).toList := rfl
    rw [unsigned]
    refine ⟨fun c member => Or.inr (all c member),?_⟩
    obtain ⟨first,others,same⟩ := List.exists_cons_of_ne_nil some
    have digit := all first (same ▸ List.mem_cons_self)
    have other : first ≠ '-' := by
      rintro rfl
      cases digit
    rw [same] at value ⊢
    rw [integerValue,value]
    · rfl
    · rintro rest equal
      exact other (List.cons.inj equal).1
  | negSucc k =>
    obtain ⟨_,all,value⟩ := digits_written (k + 1)
    have signed : (toString (Int.negSucc k)).toList = '-' :: (toString (k + 1)).toList := by
      rw [show toString (Int.negSucc k) = "-" ++ toString (k + 1) from rfl,String.toList_append]
      rfl
    rw [signed]
    constructor
    · intro c member
      rcases List.mem_cons.mp member with sign | digit
      · exact Or.inl sign
      · exact Or.inr (all c digit)
    · rw [integerValue,value]
      rfl

end PascalCheck.Text
