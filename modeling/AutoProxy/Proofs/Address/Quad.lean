import Mathlib.Data.Nat.Bitwise
import AutoProxy.Address
import AutoProxy.Proofs.Decimal
import AutoProxy.Proofs.Text

/-!
Addresses of version four and their texts. A text is read as an address exactly if it is the four octets of the
address between dots, each without a superfluous zero (`ofChars?_eq_some_iff`), so that an address has one text
only, the one that it is written with (`isQuad_toText`, `ofChars?_toText`).
-/

namespace AutoProxy.IPv4

open Number

variable {cs : List Char} {n : Nat} {a : IPv4}

/-! ### Octets -/

theorem octet?_eq_some_iff : octet? cs = some n ↔ n < 256 ∧ cs = Nat.toDigits 10 n := by
  constructor
  · intro h
    unfold octet? at h
    split at h
    · cases h
      exact ⟨by decide, rfl⟩
    · cases h
    · next hsole hzero =>
      split_ifs at h with hlength
      cases hread : ofDigits? 10 cs with
      | none => simp [hread] at h
      | some m =>
          simp only [hread, Option.ite_none_right_eq_some, Option.some.injEq] at h
          obtain ⟨hlt, rfl⟩ := h
          obtain ⟨hne, hdigits, hvalue⟩ := ofDigits?_eq_some_iff.mp hread
          refine ⟨hlt, ?_⟩
          rw [← hvalue]
          refine (toDigits_ofDigitChars hne hdigits (.inr ?_)).symm
          intro hhead
          obtain ⟨rest, rfl⟩ := List.head?_eq_some_iff.mp hhead
          exact hzero rest rfl
  · rintro ⟨hlt, rfl⟩
    rcases Nat.eq_zero_or_pos n with rfl | hpos
    · rfl
    · have hhead := head?_toDigits (b := 10) (by decide) hpos
      have hlength : (Nat.toDigits 10 n).length ≤ 3 :=
        (Nat.length_toDigits_le_iff (by decide) (by decide)).mpr (by omega)
      unfold octet?
      split
      · next hsole => exact absurd (by rw [hsole]; rfl) hhead
      · next hzero => exact absurd (by rw [hzero]; rfl) hhead
      · rw [if_pos hlength, ofDigits?_toDigits]
        exact if_pos hlt

/-! ### Quads -/

/-- The text is four octets in decimal notation with dots between them, and they are the octets of the number, the
first one most significant. -/
def IsQuad (cs : List Char) (n : Nat) : Prop :=
  ∃ a b c d : Nat, (a < 256 ∧ b < 256 ∧ c < 256 ∧ d < 256) ∧
    cs = Nat.toDigits 10 a ++ '.' :: (Nat.toDigits 10 b ++ '.' :: (Nat.toDigits 10 c ++ '.' ::
      Nat.toDigits 10 d)) ∧
    n = a * 2 ^ 24 + b * 2 ^ 16 + c * 2 ^ 8 + d

theorem IsQuad.lt (h : IsQuad cs n) : n < 2 ^ 32 := by
  obtain ⟨a, b, c, d, hoctets, -, rfl⟩ := h
  omega

theorem split_quad (a b c d : Nat) :
    Text.split '.' (Nat.toDigits 10 a ++ '.' :: (Nat.toDigits 10 b ++ '.' :: (Nat.toDigits 10 c ++ '.' ::
      Nat.toDigits 10 d))) =
      [Nat.toDigits 10 a, Nat.toDigits 10 b, Nat.toDigits 10 c, Nat.toDigits 10 d] := by
  have hdot (n : Nat) : Text.split '.' (Nat.toDigits 10 n) = [Nat.toDigits 10 n] :=
    Text.split_of_not_mem (not_mem_toDigits (by decide) (by decide) (by decide))
  simp only [Text.split_append_cons, hdot, List.cons_append, List.nil_append]

/-- The texts of an address are the quads of its number. -/
theorem ofChars?_eq_some_iff : ofChars? cs = some a ↔ IsQuad cs a.bits.toNat := by
  constructor
  · intro h
    unfold ofChars? at h
    split at h
    · next as bs cs' ds hsplit =>
      split at h
      · next a b c d ha hb hc hd =>
        cases h
        obtain ⟨hltA, rfl⟩ := octet?_eq_some_iff.mp ha
        obtain ⟨hltB, rfl⟩ := octet?_eq_some_iff.mp hb
        obtain ⟨hltC, rfl⟩ := octet?_eq_some_iff.mp hc
        obtain ⟨hltD, rfl⟩ := octet?_eq_some_iff.mp hd
        refine ⟨a, b, c, d, ⟨hltA, hltB, hltC, hltD⟩, ?_, ?_⟩
        · rw [Text.split_eq_splitOn] at hsplit
          have hjoin : ['.'].intercalate (cs.splitOn '.') = cs := List.intercalate_splitOn '.'
          rw [← hjoin, hsplit]
          simp [List.intercalate_cons_cons]
        · simp only [ofOctets, UInt32.toNat_ofNat']
          omega
      · cases h
    · cases h
  · rintro ⟨a', b, c, d, ⟨ha, hb, hc, hd⟩, rfl, hnumber⟩
    have hoctet (n : Nat) (hn : n < 256) : octet? (Nat.toDigits 10 n) = some n :=
      octet?_eq_some_iff.mpr ⟨hn, rfl⟩
    simp only [ofChars?, split_quad, hoctet _ ha, hoctet _ hb, hoctet _ hc, hoctet _ hd, Option.some.injEq]
    obtain ⟨bits⟩ := a
    simp only [ofOctets, mk.injEq, ← UInt32.toNat_inj, UInt32.toNat_ofNat', hnumber]
    omega

/-- A quad is made of digits and dots. -/
theorem IsQuad.not_mem {c : Char} (h : IsQuad cs n) (hc : digitOf? 10 c = none) (hdot : c ≠ '.') : c ∉ cs := by
  obtain ⟨a, b, c, d, -, rfl, -⟩ := h
  have hdigits {n : Nat} := not_mem_toDigits (n := n) (by decide) (by decide) hc
  simp only [List.mem_append, List.mem_cons, hdigits, hdot, or_self, not_false_eq_true]

/-- Each octet has a digit, and there are three dots. -/
theorem IsQuad.length_ge (h : IsQuad cs n) : 7 ≤ cs.length := by
  obtain ⟨a, b, c, d, -, rfl, -⟩ := h
  have hdigits (n : Nat) : 0 < (Nat.toDigits 10 n).length := List.length_pos_of_ne_nil Nat.toDigits_ne_nil
  have ha := hdigits a
  have hb := hdigits b
  have hc := hdigits c
  have hd := hdigits d
  simp only [List.length_append, List.length_cons]
  omega

/-- Every quad is read as the address of its number. -/
theorem IsQuad.exists_ofChars? (h : IsQuad cs n) : ∃ a, ofChars? cs = some a ∧ a.bits.toNat = n := by
  have hnumber : (UInt32.ofNat n).toNat = n := by
    rw [UInt32.toNat_ofNat', Nat.mod_eq_of_lt h.lt]
  exact ⟨⟨UInt32.ofNat n⟩, ofChars?_eq_some_iff.mpr (hnumber.symm ▸ h), hnumber⟩

/-- The text tells the number. -/
theorem IsQuad.number_unique {n' : Nat} (h : IsQuad cs n) (h' : IsQuad cs n') : n = n' := by
  obtain ⟨a, ha, rfl⟩ := h.exists_ofChars?
  obtain ⟨a', ha', rfl⟩ := h'.exists_ofChars?
  rw [Option.some.inj (ha.symm.trans ha')]

/-- An address is written as a quad. -/
theorem isQuad_toText (a : IPv4) : IsQuad a.toText.toList a.bits.toNat := by
  have hlt := a.bits.toNat_lt
  refine ⟨a.bits.toNat / 16777216, a.bits.toNat / 65536 % 256, a.bits.toNat / 256 % 256, a.bits.toNat % 256,
    by omega, ?_, by omega⟩
  have hdot : (toString ".").toList = ['.'] := rfl
  simp [toText, String.toList_append, hdot]

/-- What is written for an address is read as this address. -/
theorem ofChars?_toText (a : IPv4) : ofChars? a.toText.toList = some a :=
  ofChars?_eq_some_iff.mpr (isQuad_toText a)

end AutoProxy.IPv4
