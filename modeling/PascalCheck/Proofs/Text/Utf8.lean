import PascalCheck.Text.Utf8

namespace PascalCheck.Text.Utf8

-- The first bytes, by how many follow them. Of those that are followed by two or more, the ones at the ends of
-- their range allow less of the next byte.
theorem lead_alone {n : Nat} (small : n < 0x80) : lead? (UInt8.ofNat n) = some ⟨n,0,0x80,0xBF⟩ := by
  have number : (UInt8.ofNat n).toNat = n := UInt8.toNat_ofNat_of_lt' (Nat.lt_trans small (by decide))
  have alone : UInt8.ofNat n < 0x80 := by
    rw [UInt8.lt_iff_toNat_lt,number]
    exact small
  rw [lead?,if_pos alone,number]

theorem lead_before_one : ∀ n, n < 0x20 → 2 ≤ n → lead? (UInt8.ofNat (n + 0xC0)) = some ⟨n,1,0x80,0xBF⟩ := by decide

theorem lead_before_two : ∀ n, n < 0x10 → lead? (UInt8.ofNat (n + 0xE0)) =
    some ⟨n,2,if n = 0 then 0xA0 else 0x80,if n = 0xD then 0x9F else 0xBF⟩ := by decide

theorem lead_before_three : ∀ n, n < 5 → lead? (UInt8.ofNat (n + 0xF0)) =
    some ⟨n,3,if n = 0 then 0x90 else 0x80,if n = 4 then 0x8F else 0xBF⟩ := by decide

theorem continued_step {least greatest : UInt8} {bits : Nat} (low : least.toNat ≤ bits + 0x80)
    (high : bits + 0x80 ≤ greatest.toNat) (value owed : Nat) (bytes : List UInt8) :
    continued value least greatest (owed + 1) (UInt8.ofNat (bits + 0x80) :: bytes) =
      continued (64 * value + bits) 0x80 0xBF owed bytes := by
  have number : (UInt8.ofNat (bits + 0x80)).toNat = bits + 0x80 := UInt8.toNat_ofNat_of_lt' (Nat.lt_of_le_of_lt high greatest.toNat_lt)
  have inside : least ≤ UInt8.ofNat (bits + 0x80) ∧ UInt8.ofNat (bits + 0x80) ≤ greatest := by
    rw [UInt8.le_iff_toNat_le,UInt8.le_iff_toNat_le,number]
    exact ⟨low,high⟩
  rw [continued,if_pos inside,number,Nat.add_sub_cancel]

theorem continued_shift (v owed : Nat) (bytes : List UInt8) :
    continued (v / 64) 0x80 0xBF (owed + 1) (UInt8.ofNat (v % 64 + 0x80) :: bytes) =
      continued v 0x80 0xBF owed bytes := by
  have small : v % 64 ≤ 63 := Nat.le_of_lt_succ (Nat.mod_lt _ (by decide))
  rw [continued_step (Nat.le_add_left _ _) (Nat.add_le_add_right small 0x80),Nat.div_add_mod]

theorem decode_lead {b : UInt8} {lead : Lead} {bytes left : List UInt8} {value : Nat} (known : lead? b = some lead)
    (read : continued lead.share lead.least lead.greatest lead.following bytes = .ok (value,left)) :
    decode (b :: bytes) = (decode left).map (Char.ofNat value :: ·) := by
  rw [decode]
  simp only [known]
  split
  · rename_i flaw failed
    rw [read] at failed
    cases failed
  · rename_i other onward found
    rw [read] at found
    cases found
    rfl

theorem least_le {n bits : Nat} {edge : UInt8} (first : n = 0 → edge.toNat ≤ bits + 0x80) :
    (if n = 0 then edge else 0x80).toNat ≤ bits + 0x80 := by
  split
  · exact first ‹_›
  · exact Nat.le_add_left _ _

theorem le_greatest {n last bits : Nat} {edge : UInt8} (small : bits < 64)
    (final : n = last → bits + 0x80 ≤ edge.toNat) : bits + 0x80 ≤ (if n = last then edge else 0xBF).toNat := by
  split
  · exact final ‹_›
  · exact Nat.add_le_add_right (Nat.le_of_lt_succ small) 0x80

theorem decode_two {v : Nat} (low : 0x80 ≤ v) (high : v < 0x800) (bytes : List UInt8) :
    decode (UInt8.ofNat (v / 64 % 32 + 0xC0) :: UInt8.ofNat (v % 64 + 0x80) :: bytes) =
      (decode bytes).map (Char.ofNat v :: ·) := by
  rw [Nat.mod_eq_of_lt (show v / 64 < 32 by omega)]
  apply decode_lead (lead_before_one (v / 64) (by omega) (by omega))
  exact continued_shift v 0 bytes

theorem decode_three {v : Nat} (low : 0x800 ≤ v) (high : v < 0x10000) (scalar : v < 0xD800 ∨ 0xDFFF < v)
    (bytes : List UInt8) :
    decode (UInt8.ofNat (v / 4096 % 16 + 0xE0) :: UInt8.ofNat (v / 64 % 64 + 0x80) ::
        UInt8.ofNat (v % 64 + 0x80) :: bytes) =
      (decode bytes).map (Char.ofNat v :: ·) := by
  rw [Nat.mod_eq_of_lt (show v / 4096 < 16 by omega)]
  apply decode_lead (lead_before_two (v / 4096) (by omega))
  have least : (if v / 4096 = 0 then (0xA0 : UInt8) else 0x80).toNat ≤ v / 64 % 64 + 0x80 := by
    apply least_le
    intro first
    change 0xA0 ≤ _
    omega
  have greatest : v / 64 % 64 + 0x80 ≤ (if v / 4096 = 0xD then (0x9F : UInt8) else 0xBF).toNat := by
    apply le_greatest (Nat.mod_lt _ (by decide))
    intro final
    change _ ≤ 0x9F
    omega
  have share : 64 * (v / 4096) + v / 64 % 64 = v / 64 := by omega
  refine (continued_step least greatest _ 1 _).trans ?_
  rw [share]
  exact continued_shift v 0 bytes

theorem decode_four {v : Nat} (low : 0x10000 ≤ v) (high : v < 0x110000) (bytes : List UInt8) :
    decode (UInt8.ofNat (v / 262144 % 8 + 0xF0) :: UInt8.ofNat (v / 4096 % 64 + 0x80) ::
        UInt8.ofNat (v / 64 % 64 + 0x80) :: UInt8.ofNat (v % 64 + 0x80) :: bytes) =
      (decode bytes).map (Char.ofNat v :: ·) := by
  rw [Nat.mod_eq_of_lt (show v / 262144 < 8 by omega)]
  apply decode_lead (lead_before_three (v / 262144) (by omega))
  have least : (if v / 262144 = 0 then (0x90 : UInt8) else 0x80).toNat ≤ v / 4096 % 64 + 0x80 := by
    apply least_le
    intro first
    change 0x90 ≤ _
    omega
  have greatest : v / 4096 % 64 + 0x80 ≤ (if v / 262144 = 4 then (0x8F : UInt8) else 0xBF).toNat := by
    apply le_greatest (Nat.mod_lt _ (by decide))
    intro final
    change _ ≤ 0x8F
    omega
  have share : 64 * (v / 262144) + v / 4096 % 64 = v / 64 / 64 := by omega
  refine (continued_step least greatest _ 2 _).trans ?_
  rw [share]
  exact (continued_shift (v / 64) 1 _).trans (continued_shift v 0 bytes)

theorem decode_char (c : Char) (bytes : List UInt8) :
    decode (String.utf8EncodeChar c ++ bytes) = (decode bytes).map (c :: ·) := by
  have valid : c.val.toNat < 0xD800 ∨ 0xDFFF < c.val.toNat ∧ c.val.toNat < 0x110000 := c.valid
  have whole : Char.ofNat c.val.toNat = c := Char.ofNat_toNat c
  rw [String.utf8EncodeChar]
  generalize c.val.toNat = v at valid whole
  subst whole
  split
  · exact decode_lead (lead_alone (by omega)) rfl
  split
  · exact decode_two (by omega) (by omega) bytes
  split
  · exact decode_three (by omega) (by omega) (by omega) bytes
  · exact decode_four (by omega) (by omega) bytes

theorem decode_encode (chars : List Char) : decode (encode chars) = .ok chars := by
  induction chars with
  | nil => rw [encode,List.flatMap_nil,decode]
  | cons c chars ih =>
    have rest : decode (List.flatMap String.utf8EncodeChar chars) = .ok chars := ih
    rw [encode,List.flatMap_cons,decode_char,rest]
    rfl

theorem encode_mark : encode ['\uFEFF'] = mark := by decide

theorem decodeMarked_marked (chars : List Char) : decodeMarked (mark ++ encode chars) = .ok chars := by
  have marked : mark.isPrefixOf (mark ++ encode chars) = true := List.isPrefixOf_iff_prefix.mpr (List.prefix_append _ _)
  rw [decodeMarked,if_pos marked]
  exact decode_encode chars

theorem decode_part {bytes : List UInt8} (short : bytes <+: mark) (part : bytes ≠ mark) (some : bytes ≠ []) :
    decode bytes = .error .cutShort := by
  rcases List.prefix_cons_iff.mp short with rfl | ⟨second,rfl,shorter⟩
  · exact absurd rfl some
  rcases List.prefix_cons_iff.mp shorter with rfl | ⟨third,rfl,last⟩
  · rw [decode]
    rfl
  rcases List.prefix_cons_iff.mp last with rfl | ⟨fourth,rfl,none⟩
  · rw [decode]
    rfl
  · rw [List.prefix_nil.mp none] at part
    exact absurd rfl part

theorem decodeMarked_plain {chars : List Char} (plain : chars.head? ≠ some '\uFEFF') :
    decodeMarked (encode chars) = .ok chars := by
  have whole := decode_encode chars
  -- a mark in front would be read back as the text's own first character
  have unmarked : ¬ mark <+: encode chars := by
    rintro ⟨bytes,same⟩
    rw [← same,← encode_mark,encode,List.flatMap_singleton,decode_char] at whole
    cases rest : decode bytes with
    | error flaw =>
      rw [rest] at whole
      cases whole
    | ok others =>
      rw [rest] at whole
      cases whole
      exact plain rfl
  have other : ¬ mark.isPrefixOf (encode chars) = true := fun found => unmarked <| List.isPrefixOf_iff_prefix.mp found
  rw [decodeMarked,if_neg other]
  split
  · rename_i begins
    have short := List.isPrefixOf_iff_prefix.mp begins
    by_cases none : encode chars = []
    · rw [none,decode] at whole
      exact whole
    · have part : encode chars ≠ mark := fun same => unmarked (same ▸ List.prefix_rfl)
      rw [decode_part short part none] at whole
      cases whole
  · exact whole

end PascalCheck.Text.Utf8
