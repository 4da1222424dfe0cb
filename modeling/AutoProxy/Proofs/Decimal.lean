import Mathlib.Data.List.Basic
import Mathlib.Data.List.Induction
import AutoProxy.Number.Whole

/-!
Numbers, read and written. What is read as a decimal number is decimal digits and nothing else, however many
they are, with their value as the number (`ofDigits?_eq_some_iff`). Below a bound and with room for a sign these
are the texts that denote a number of the range (`Denotes`, `unsigned?_eq_some_iff`). The digits that a number
is written with are among them (`ofDigits?_toDigits`, `denotes_toDigits`).

In any base up to sixteen the digits of a number are read as this number (`ofDigits?_toDigits_of_le`), and none
of them is a superfluous zero (`head?_toDigits`). Of the decimal texts, those without a superfluous zero are the
digits of the numbers that they are read as (`toDigits_ofDigitChars`).
-/

namespace AutoProxy.Number

/-! ## Decimal digits -/

variable {c : Char} {cs : List Char} {n bound : Nat}

theorem toNat_of_isDigit (h : c.isDigit = true) : 48 ≤ c.toNat ∧ c.toNat ≤ 57 := by
  simpa [Char.isDigit, UInt32.le_iff_toNat_le] using h

/-- A digit is not blank. -/
theorem isBlank_of_isDigit (h : c.isDigit = true) : Text.isBlank c = false := by
  have hrange := toNat_of_isDigit h
  simp only [Text.isBlank, Bool.or_eq_false_iff, Bool.and_eq_false_iff, decide_eq_false_iff_not,
    beq_eq_false_iff_ne]
  omega

theorem digitOf?_of_isDigit (h : c.isDigit = true) : digitOf? 10 c = some (c.toNat - 48) := by
  have hrange := toNat_of_isDigit h
  have hvalue : c.toNat - 48 < 10 := by omega
  simp [digitOf?, digit?, hrange, hvalue]

theorem digitOf?_of_not_isDigit (h : c.isDigit = false) : digitOf? 10 c = none := by
  have hrange : ¬ (48 ≤ c.toNat ∧ c.toNat ≤ 57) := by
    rintro ⟨hlow, hhigh⟩
    simp [Char.isDigit, UInt32.le_iff_toNat_le] at h
    omega
  -- The letters that are digits of larger bases have the value ten at least.
  have hletter : ∀ d, digit? c = some d → 10 ≤ d := by
    intro d hd
    simp only [digit?, if_neg hrange] at hd
    split at hd
    · cases hd
      omega
    split at hd
    · cases hd
      omega
    · cases hd
  rw [digitOf?]
  split
  · next d hd => rw [if_neg (Nat.not_lt.mpr (hletter d hd))]
  · rfl

/-- Digits, and nothing else, are read from left to right after the number that has been read so far. -/
theorem continueDigits?_eq_some_iff {value : Nat} :
    continueDigits? 10 value cs = some n ↔
      (∀ c ∈ cs, c.isDigit = true) ∧ Nat.ofDigitChars 10 cs value = n := by
  induction cs generalizing value with
  | nil => simp [continueDigits?]
  | cons x xs ih =>
      cases hx : x.isDigit with
      | true =>
          simp only [continueDigits?, digitOf?_of_isDigit hx, ih, List.forall_mem_cons, hx, true_and,
            Nat.ofDigitChars_cons, Nat.mul_comm value]
          rfl
      | false => simp [continueDigits?, digitOf?_of_not_isDigit hx, hx]

theorem ofDigits?_eq_some_iff :
    ofDigits? 10 cs = some n ↔
      cs ≠ [] ∧ (∀ c ∈ cs, c.isDigit = true) ∧ Nat.ofDigitChars 10 cs 0 = n := by
  rw [ofDigits?]
  cases cs with
  | nil => simp
  | cons x xs =>
      simp only [List.isEmpty_cons, Bool.false_eq_true, if_false, continueDigits?_eq_some_iff, ne_eq,
        reduceCtorEq, not_false_eq_true, true_and]

/-- The text is one or more decimal digits behind an optional plus sign, and they denote the number. -/
def Denotes (cs : List Char) (n : Nat) : Prop :=
  ∃ digits, (cs = digits ∨ cs = '+' :: digits) ∧ digits ≠ [] ∧ (∀ c ∈ digits, c.isDigit = true) ∧
    Nat.ofDigitChars 10 digits 0 = n

/-- The text without the plus sign that it may begin with. -/
def withoutPlus : List Char → List Char
  | '+' :: rest => rest
  | cs => cs

/-- Of a plus sign and digits, the digits are what is read: a plus sign is no digit itself. -/
theorem denotes_iff : Denotes cs n ↔ ofDigits? 10 (withoutPlus cs) = some n := by
  rw [ofDigits?_eq_some_iff]
  unfold withoutPlus
  split
  · next rest =>
    constructor
    · rintro ⟨digits, rfl | hplus, hdigits⟩
      · have hsign : ('+' : Char).isDigit = true := hdigits.2.1 '+' List.mem_cons_self
        exact absurd hsign (by decide)
      · cases hplus
        exact hdigits
    · exact fun hrest => ⟨rest, .inr rfl, hrest⟩
  · next hbare =>
    constructor
    · rintro ⟨digits, rfl | hplus, hdigits⟩
      · exact hdigits
      · exact absurd hplus (hbare digits)
    · exact fun hcs => ⟨cs, .inl rfl, hcs⟩

/-- A number is read from the texts that denote it, however long they are, if it is below the bound. -/
theorem unsigned?_eq_some_iff : unsigned? bound cs = some n ↔ n < bound ∧ Denotes cs n := by
  have hread : unsigned? bound cs = (ofDigits? 10 (withoutPlus cs)).filter fun n => n < bound := by
    unfold withoutPlus
    split
    · next rest =>
      rw [unsigned?]
      cases ofDigits? 10 rest <;> simp [Option.filter]
    · next hbare =>
      rw [unsigned?]
      · cases ofDigits? 10 cs <;> simp [Option.filter]
      · exact hbare
  rw [hread, Option.filter_eq_some_iff, denotes_iff, decide_eq_true_iff, and_comm]

/-- The digits of a number are read as that number. -/
theorem ofDigits?_toDigits (n : Nat) : ofDigits? 10 (Nat.toDigits 10 n) = some n :=
  ofDigits?_eq_some_iff.mpr ⟨Nat.toDigits_ne_nil,
    fun _ hc => Nat.isDigit_of_mem_toDigits (by decide) (by decide) hc, Nat.ofDigitChars_ten_toDigits⟩

theorem denotes_toDigits (n : Nat) : Denotes (Nat.toDigits 10 n) n :=
  ⟨_, .inl rfl, ofDigits?_eq_some_iff.mp (ofDigits?_toDigits n)⟩

end AutoProxy.Number

/-! ## Other bases -/

namespace AutoProxy.Number

variable {b n d : Nat} {cs : List Char}

/-! ### Reading what is written -/

theorem continueDigits?_append (value : Nat) (front back : List Char) :
    continueDigits? b value (front ++ back) =
      (continueDigits? b value front).bind fun value => continueDigits? b value back := by
  induction front generalizing value with
  | nil => rfl
  | cons c cs ih =>
      rw [List.cons_append, continueDigits?, continueDigits?]
      cases digitOf? b c with
      | none => rfl
      | some d => exact ih _

/-- The value of a small digit. -/
theorem digit?_digitChar (hd : d < 16) : digit? d.digitChar = some d := by
  revert d
  decide

theorem digitOf?_digitChar (hb : b ≤ 16) (hd : d < b) : digitOf? b d.digitChar = some d := by
  rw [digitOf?, digit?_digitChar (by omega)]
  exact if_pos hd

/-- The digits of a number are read as that number. -/
theorem ofDigits?_toDigits_of_le (hlow : 1 < b) (hb : b ≤ 16) (n : Nat) :
    ofDigits? b (Nat.toDigits b n) = some n := by
  rw [ofDigits?, if_neg (by simp [Nat.toDigits_ne_nil])]
  induction n using Nat.base_induction b hlow with
  | single m hm =>
      rw [Nat.toDigits_of_lt_base hm, continueDigits?, digitOf?_digitChar hb hm]
      simp [continueDigits?]
  | digit m k hk hm ih =>
      rw [← Nat.toDigits_append_toDigits hlow hm hk, continueDigits?_append, ih,
        Nat.toDigits_of_lt_base hk, Option.bind_some, continueDigits?, digitOf?_digitChar hb hk]
      simp [continueDigits?, Nat.mul_comm]

/-- The digits of a number are digits of the base. -/
theorem not_mem_toDigits {c : Char} (hlow : 1 < b) (hb : b ≤ 16) (hc : digitOf? b c = none) :
    c ∉ Nat.toDigits b n := by
  have hdigit {d : Nat} (hd : d < b) : c ≠ d.digitChar := by
    rintro rfl
    simp [digitOf?_digitChar hb hd] at hc
  induction n using Nat.base_induction b hlow with
  | single m hm => simpa [Nat.toDigits_of_lt_base hm] using hdigit hm
  | digit m k hk hm ih =>
      rw [← Nat.toDigits_append_toDigits hlow hm hk, Nat.toDigits_of_lt_base hk, List.mem_append, not_or]
      exact ⟨ih, by simpa using hdigit hk⟩

/-! ### Superfluous zeros -/

theorem head?_toDigits (hb : 1 < b) (hn : 0 < n) : (Nat.toDigits b n).head? ≠ some '0' := by
  induction n using Nat.base_induction b hb with
  | single m hm =>
      rw [Nat.toDigits_of_lt_base hm]
      simpa using Nat.pos_iff_ne_zero.mp hn
  | digit m k hk hm ih =>
      rw [← Nat.toDigits_append_toDigits hb hm hk, List.head?_append_of_ne_nil _ Nat.toDigits_ne_nil]
      exact ih hm

theorem toDigits_of_isDigit {c : Char} (h : c.isDigit = true) :
    Nat.toDigits 10 (c.toNat - '0'.toNat) = [c] := by
  have hrange := toNat_of_isDigit h
  have hzero : '0'.toNat = 48 := rfl
  have hdigit : (c.toNat - 48).digitChar = c := by
    apply Char.toNat_inj.mp
    rw [Nat.toNat_digitChar_of_lt_ten (by omega)]
    omega
  rw [hzero, Nat.toDigits_of_lt_base (by omega), hdigit]

/-- A decimal text is made of the digits of the number that it is read as, unless it begins with a zero that is
superfluous. -/
theorem toDigits_ofDigitChars (hne : cs ≠ []) (hdigits : ∀ c ∈ cs, c.isDigit = true)
    (hzero : cs = ['0'] ∨ cs.head? ≠ some '0') : Nat.toDigits 10 (Nat.ofDigitChars 10 cs 0) = cs := by
  -- the last digit is taken off, so that what is left begins as the text does
  induction cs using List.reverseRecOn with
  | nil => exact absurd rfl hne
  | append_singleton front c ih =>
      have hc : c.isDigit = true := hdigits c (by simp)
      rw [Nat.ofDigitChars_append, Nat.ofDigitChars_cons, Nat.ofDigitChars_nil]
      by_cases hfront : front = []
      · rw [hfront, Nat.ofDigitChars_nil, Nat.mul_zero, Nat.zero_add]
        exact toDigits_of_isDigit hc
      · have hhead : front.head? ≠ some '0' := by
          rcases hzero with hzero | hzero
          · cases front <;> simp_all
          · rwa [List.head?_append_of_ne_nil _ hfront] at hzero
        have hrest := ih hfront (fun c hc => hdigits c (by simp [hc])) (.inr hhead)
        have hpos : 0 < Nat.ofDigitChars 10 front 0 := by
          by_contra hnot
          rw [Nat.eq_zero_of_not_pos hnot, Nat.toDigits_zero] at hrest
          exact hhead (by rw [← hrest]; rfl)
        have hlast : c.toNat - '0'.toNat < 10 := by
          have hrange := toNat_of_isDigit hc
          have hzero : '0'.toNat = 48 := rfl
          omega
        rw [← Nat.toDigits_append_toDigits (by decide) hpos hlast, hrest, toDigits_of_isDigit hc]

end AutoProxy.Number
