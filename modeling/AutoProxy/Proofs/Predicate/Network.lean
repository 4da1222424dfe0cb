import Mathlib.Data.Nat.Bitwise
import AutoProxy.Predicate.Host
import AutoProxy.Proofs.Address.Quad

/-!
Hosts in networks. Host, pattern and mask are numbers of 32 bits that quads name, and the host lies in the network
if its bits under the mask are those of the pattern (`isInNet_eq_true_iff`). Under the mask of a prefix these are
the bits of the last multiple of a power of two before the host (`land_netmask`), so that the hosts of a network are
an interval (`isInNet_netmask`). A pattern with bits outside the mask has no hosts at all.
-/

namespace AutoProxy.Predicate

open IPv4

/-- The mask whose first bits, as many as the prefix is long, are set. -/
def netmask (length : Nat) : Nat := 2 ^ 32 - 2 ^ (32 - length)

/-! ### Masks -/

section Masks

variable {length : Nat}

theorem testBit_netmask (length i : Nat) : (netmask length).testBit i = decide (32 - length ≤ i ∧ i < 32) := by
  have hpos : 0 < 2 ^ (32 - length) := Nat.two_pow_pos _
  have hle : 2 ^ (32 - length) ≤ 2 ^ 32 := Nat.pow_le_pow_right (by decide) (by omega)
  have hlast : 2 ^ 32 - 2 ^ (32 - length) = 2 ^ 32 - (2 ^ (32 - length) - 1 + 1) := by
    rw [Nat.sub_add_cancel hpos]
  rw [netmask, hlast, Nat.testBit_two_pow_sub_succ (by omega), Nat.testBit_two_pow_sub_one, Bool.eq_iff_iff]
  simp [and_comm]

/-- Of an address the mask leaves the whole multiples of the number of addresses that it has room for. -/
theorem land_netmask {host : Nat} (hhost : host < 2 ^ 32) :
    host &&& netmask length = host / 2 ^ (32 - length) * 2 ^ (32 - length) := by
  apply Nat.eq_of_testBit_eq
  intro i
  rw [Nat.testBit_land, testBit_netmask, Nat.testBit_mul_two_pow, Nat.testBit_div_two_pow]
  by_cases hlow : 32 - length ≤ i
  · rw [Nat.sub_add_cancel hlow]
    by_cases hhigh : i < 32
    · simp [hlow, hhigh]
    · have hbeyond : host.testBit i = false :=
        Nat.testBit_lt_two_pow (hhost.trans_le (Nat.pow_le_pow_right (by decide) (by omega)))
      simp [hbeyond]
  · simp [hlow]

/-- A pattern without bits outside the mask is such a multiple itself. -/
theorem dvd_of_testBit_netmask {pattern : Nat} (hpattern : pattern < 2 ^ 32)
    (h : ∀ i, pattern.testBit i = true → (netmask length).testBit i = true) :
    2 ^ (32 - length) ∣ pattern := by
  have hsame : pattern &&& netmask length = pattern := by
    apply Nat.eq_of_testBit_eq
    intro i
    rw [Nat.testBit_land]
    cases hbit : pattern.testBit i with
    | false => rfl
    | true => simp [h i hbit]
  rw [land_netmask hpattern] at hsame
  exact Dvd.intro_left _ hsame

theorem land_netmask_eq_iff {host pattern : Nat} (hhost : host < 2 ^ 32) (h : 2 ^ (32 - length) ∣ pattern) :
    host &&& netmask length = pattern ↔ pattern ≤ host ∧ host ≤ pattern + 2 ^ (32 - length) - 1 := by
  obtain ⟨q, rfl⟩ := h
  have hpos : 0 < 2 ^ (32 - length) := Nat.two_pow_pos _
  rw [land_netmask hhost, Nat.mul_comm, Nat.mul_right_inj hpos.ne', Nat.div_eq_iff hpos,
    Nat.mul_comm q]

end Masks

/-! ### Networks -/

/-- The host lies in the network if all three are quads and the bits of the host under the mask are those of the
pattern. -/
theorem isInNet_eq_true_iff {host pattern mask : String} :
    isInNet host pattern mask = true ↔ ∃ h p m, IsQuad (Text.trim host.toList) h ∧
      IsQuad (Text.trim pattern.toList) p ∧ IsQuad (Text.trim mask.toList) m ∧ h &&& m = p := by
  have hbits (h m p : IPv4) : (h.bits &&& m.bits == p.bits) = true ↔
      h.bits.toNat &&& m.bits.toNat = p.bits.toNat := by
    rw [beq_iff_eq, ← UInt32.toNat_inj, UInt32.toNat_and]
  constructor
  · intro h
    simp only [isInNet, dottedQuad?] at h
    split at h
    · next a p m ha hp hm =>
      exact ⟨_, _, _, ofChars?_eq_some_iff.mp ha, ofChars?_eq_some_iff.mp hp, ofChars?_eq_some_iff.mp hm,
        (hbits a m p).mp h⟩
    · cases h
  · rintro ⟨_, _, _, hhost, hpattern, hmask, hland⟩
    obtain ⟨h, hh, rfl⟩ := hhost.exists_ofChars?
    obtain ⟨p, hp, rfl⟩ := hpattern.exists_ofChars?
    obtain ⟨m, hm, rfl⟩ := hmask.exists_ofChars?
    simp only [isInNet, dottedQuad?, hh, hp, hm]
    exact (hbits h m p).mpr hland

/-- Nothing but quads lies in a network, and with the mask of a prefix the hosts of a network are those from its
pattern on, as many as the bits behind the prefix tell apart. That is if the pattern has no bit behind the prefix
itself: if it has one, then no host lies in the network. -/
theorem isInNet_netmask (host pattern mask : String) :
    (isInNet host pattern mask = true → (∃ h, IsQuad (Text.trim host.toList) h) ∧
      (∃ p, IsQuad (Text.trim pattern.toList) p) ∧ ∃ m, IsQuad (Text.trim mask.toList) m) ∧
    ∀ length ≤ 32, IsQuad (Text.trim mask.toList) (netmask length) →
      ∀ p, IsQuad (Text.trim pattern.toList) p →
        ((∀ i, p.testBit i = true → (netmask length).testBit i = true) →
          ∀ h, IsQuad (Text.trim host.toList) h →
            (isInNet host pattern mask = true ↔ p ≤ h ∧ h ≤ p + 2 ^ (32 - length) - 1)) ∧
        ((∃ i, p.testBit i = true ∧ (netmask length).testBit i = false) →
          isInNet host pattern mask = false) := by
  constructor
  · intro h
    obtain ⟨h, p, m, hhost, hpattern, hmask, -⟩ := isInNet_eq_true_iff.mp h
    exact ⟨⟨h, hhost⟩, ⟨p, hpattern⟩, ⟨m, hmask⟩⟩
  · intro length _ hmask p hpattern
    have hiff : isInNet host pattern mask = true ↔
        ∃ h, IsQuad (Text.trim host.toList) h ∧ h &&& netmask length = p := by
      rw [isInNet_eq_true_iff]
      constructor
      · rintro ⟨h, p', m, hhost, hpattern', hmask', hland⟩
        rw [hmask'.number_unique hmask, hpattern'.number_unique hpattern] at hland
        exact ⟨h, hhost, hland⟩
      · rintro ⟨h, hhost, hland⟩
        exact ⟨h, p, _, hhost, hpattern, hmask, hland⟩
    constructor
    · intro hwithin h hhost
      rw [hiff, ← land_netmask_eq_iff hhost.lt (dvd_of_testBit_netmask hpattern.lt hwithin)]
      constructor
      · rintro ⟨h', hhost', hland⟩
        rwa [hhost'.number_unique hhost] at hland
      · exact fun hland => ⟨h, hhost, hland⟩
    · rintro ⟨i, hset, hunset⟩
      rw [← Bool.not_eq_true, hiff]
      rintro ⟨h, -, rfl⟩
      rw [Nat.testBit_land, hunset, Bool.and_false] at hset
      cases hset

/-- Two hosts of a network with a prefix of 24 bits, the second one by its last address, and the pattern of another
one with a bit behind its prefix. -/
theorem isInNet_netmask_prefix24 :
    IsQuad (Text.trim "255.255.255.0".toList) (netmask 24) ∧
      IsQuad (Text.trim " 192.168.1.0".toList) 3232235776 ∧
      IsQuad (Text.trim "192.168.1.5".toList) 3232235781 ∧
      isInNet "\t192.168.1.255 " " 192.168.1.0" "255.255.255.0" = true ∧
      isInNet "192.168.2.0" " 192.168.1.0" "255.255.255.0" = false ∧
      isInNet "192.168.1.9" "192.168.1.5" "255.255.255.0" = false := by
  have hmask : IsQuad (Text.trim "255.255.255.0".toList) (netmask 24) :=
    ⟨255, 255, 255, 0, by decide, by decide, by decide⟩
  have hpattern : IsQuad (Text.trim " 192.168.1.0".toList) 3232235776 :=
    ⟨192, 168, 1, 0, by decide, by decide, by decide⟩
  have hbit : IsQuad (Text.trim "192.168.1.5".toList) 3232235781 :=
    ⟨192, 168, 1, 5, by decide, by decide, by decide⟩
  have hlast : IsQuad (Text.trim "\t192.168.1.255 ".toList) 3232236031 :=
    ⟨192, 168, 1, 255, by decide, by decide, by decide⟩
  have hnext : IsQuad (Text.trim "192.168.2.0".toList) 3232236032 :=
    ⟨192, 168, 2, 0, by decide, by decide, by decide⟩
  have hwithin (i : Nat) (h : (3232235776 : Nat).testBit i = true) : (netmask 24).testBit i = true := by
    have hword : ∀ i < 32, (3232235776 : Nat).testBit i = true → (netmask 24).testBit i = true := by decide
    refine hword i ?_ h
    by_contra hbeyond
    have hpow : 2 ^ 32 ≤ 2 ^ i := Nat.pow_le_pow_right (by decide) (by omega)
    rw [Nat.testBit_lt_two_pow (by omega)] at h
    cases h
  have hnetwork (host : String) :=
    ((isInNet_netmask host " 192.168.1.0" "255.255.255.0").2 24 (by decide) hmask _ hpattern).1 hwithin
  refine ⟨hmask, hpattern, hbit, (hnetwork _ _ hlast).mpr (by decide), ?_, ?_⟩
  · rw [← Bool.not_eq_true, hnetwork _ _ hnext]
    decide
  · exact ((isInNet_netmask _ "192.168.1.5" "255.255.255.0").2 24 (by decide) hmask _ hbit).2
      ⟨0, by decide, by decide⟩

end AutoProxy.Predicate
