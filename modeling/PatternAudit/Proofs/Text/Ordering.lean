import Mathlib.Tactic.SplitIfs
import PatternAudit.Text.Utf8

/-! Encoding keeps the order of texts: that of their characters is that of their bytes.
-/

namespace PatternAudit.Utf8

-----------------------------------------------------------------------------------------
-- Single characters
-----------------------------------------------------------------------------------------

/-- A smaller first byte decides. -/
theorem cons_lt_cons_of_lt {left right : Nat} (less : left < right) (small : right < 0x100)
    (after after' : Bytes)
    : UInt8.ofNat left :: after < UInt8.ofNat right :: after' := by
  refine List.cons_lt_cons_iff.mpr (.inl ?_)
  rw [UInt8.lt_iff_toNat_lt, UInt8.toNat_ofNat_of_lt' (Nat.lt_trans less small),
    UInt8.toNat_ofNat_of_lt' small]
  exact less

/-- A first byte that is not larger leaves the decision to what follows. -/
theorem cons_lt_cons_of_le {left right : Nat} (le : left ≤ right) (small : right < 0x100)
    {after after' : Bytes} (next : left = right → after < after')
    : UInt8.ofNat left :: after < UInt8.ofNat right :: after' := by
  rcases Nat.lt_or_eq_of_le le with less | same
  · exact cons_lt_cons_of_lt less small after after'
  · rw [same]
    exact List.cons_lt_cons_self.mpr (next same)

/-- The bytes of a smaller character come first, whatever follows either. Witness: a character with
more bytes has a larger first byte, and with as many bytes they are compared one by one.
-/
theorem encodeChar_append_lt {left right : Char} (less : left < right) (after after' : Bytes)
    : encodeChar left ++ after < encodeChar right ++ after' := by
  have codes : left.toNat < right.toNat := less
  have valid : right.toNat.isValidChar := right.valid
  have bounded : right.toNat < 0x110000 := by
    rw [Nat.isValidChar] at valid
    omega
  dsimp only [encodeChar]
  split_ifs <;> simp only [List.cons_append, List.nil_append]
  -- The smaller character does not have more bytes.
  all_goals try omega
  · exact cons_lt_cons_of_lt (by omega) (by omega) _ _
  · exact cons_lt_cons_of_lt (by omega) (by omega) _ _
  · exact cons_lt_cons_of_lt (by omega) (by omega) _ _
  · exact cons_lt_cons_of_lt (by omega) (by omega) _ _
  · refine cons_lt_cons_of_le (by omega) (by omega) fun first => ?_
    exact cons_lt_cons_of_lt (by omega) (by omega) _ _
  · exact cons_lt_cons_of_lt (by omega) (by omega) _ _
  · exact cons_lt_cons_of_lt (by omega) (by omega) _ _
  · refine cons_lt_cons_of_le (by omega) (by omega) fun first => ?_
    refine cons_lt_cons_of_le (by omega) (by omega) fun second => ?_
    exact cons_lt_cons_of_lt (by omega) (by omega) _ _
  · exact cons_lt_cons_of_lt (by omega) (by omega) _ _
  · refine cons_lt_cons_of_le (by omega) (by omega) fun first => ?_
    refine cons_lt_cons_of_le (by omega) (by omega) fun second => ?_
    refine cons_lt_cons_of_le (by omega) (by omega) fun third => ?_
    exact cons_lt_cons_of_lt (by omega) (by omega) _ _

-----------------------------------------------------------------------------------------
-- Texts
-----------------------------------------------------------------------------------------

/-- A character has at least one byte. -/
theorem encodeChar_ne_nil (char : Char) : encodeChar char ≠ [] := by
  dsimp only [encodeChar]
  split_ifs <;> exact List.cons_ne_nil _ _

/-- The bytes of a smaller text come first, by induction on where the texts differ. -/
theorem encode_lt_encode {left right : List Char} (less : left < right)
    : encode left < encode right := by
  induction less with
  | @nil char rest =>
      obtain ⟨byte, bytes, same⟩ := List.exists_cons_of_ne_nil (encodeChar_ne_nil char)
      simp [encode, same]
  | rel less => exact encodeChar_append_lt less _ _
  | cons _ ih => exact List.append_left_lt ih

/-- Texts in ascending order have their bytes in ascending order. -/
theorem ofString_lt_ofString {left right : String} (less : left < right)
    : ofString left < ofString right :=
  encode_lt_encode less

end PatternAudit.Utf8
