import Mathlib.Tactic.SplitIfs
import AutoProxy.Number.Double
import AutoProxy.Proofs.Calendar.Count

/-!
Reckoning in words of 64 bits. Some operations look at their operands and refuse those that have no result; the
others give the exact result where a word holds it, and where none does, it depends on how the program has been
built (`Overflow`). Lengths of time are short enough for words: products that are too long for a word are too
long for a length (`units_eq`), and the sum of two lengths is always exact (`sum_eq`).
-/

namespace AutoProxy

open Calendar

/-! ### Words -/

namespace Number

def IsWord (n : Int) : Prop := -(signedLimit : Int) ≤ n ∧ n < signedLimit

instance (n : Int) : Decidable (IsWord n) := inferInstanceAs (Decidable (_ ∧ _))

/-- The word with the same last 64 binary digits. -/
def wrapped (n : Int) : Int := n.bmod 18446744073709551616

/-- Words hold the seconds of every length. -/
theorem IsWord.of_isLength {seconds : Int} (h : Delta.IsLength seconds) : IsWord seconds := by
  simp only [Delta.IsLength, Delta.maxSeconds] at h
  simp only [IsWord, signedLimit]
  omega

theorem isWord_clamp64 (n : Int) : IsWord (clamp64 n) := by
  unfold clamp64
  split_ifs <;> simp only [IsWord, signedLimit] at * <;> omega

end Number

namespace Words

open Number

/-! ### Operations -/

/-- What becomes of a sum that no word holds. -/
inductive Overflow where
  /-- The evaluation breaks down. -/
  | breaksDown
  /-- Its last 64 binary digits stand for it. -/
  | wraps
deriving DecidableEq, Repr

/-- Why an operation on words has no result. -/
inductive Stop where
  | overflow
  /-- The operation looks at its operands, and these have no result. -/
  | refused
deriving DecidableEq, Repr

/-- The result of an operation that refuses operands without one. -/
def checked {α : Type} : Option α → Except Stop α
  | some a => .ok a
  | none => .error .refused

/-- The result of an operation that does not look at its operands, given the exact one. -/
def Overflow.settle (o : Overflow) (exact : Int) : Except Stop Int :=
  if IsWord exact then .ok exact
  else
    match o with
    | breaksDown => .error .overflow
    | wraps => .ok (wrapped exact)

def units (unit count : Int) : Except Stop Delta := do
  let seconds ← checked (if IsWord (count * unit) then some (count * unit) else none)
  checked (Delta.ofSeconds? seconds)

def sum (o : Overflow) (a b : Delta) : Except Stop Delta := do
  let seconds ← o.settle (a.seconds + b.seconds)
  checked (Delta.ofSeconds? seconds)

section Operations

variable {o : Overflow}

@[simp] theorem checked_some {α : Type} (a : α) : checked (some a) = .ok a := rfl

@[simp] theorem checked_none {α : Type} : checked (none : Option α) = .error .refused := rfl

@[simp] theorem ok_bind {α β : Type} (a : α) (f : α → Except Stop β) : (Except.ok a >>= f) = f a := rfl

@[simp] theorem error_bind {α β : Type} (stop : Stop) (f : α → Except Stop β) :
    (Except.error stop >>= f) = .error stop := rfl

/-- Operations that look at their operands are a chain in which the first one without a result ends. -/
theorem checked_bind {α β : Type} (a : Option α) (f : α → Option β) :
    (checked a >>= fun x => checked (f x)) = checked (a.bind f) := by
  cases a <;> rfl

theorem settle_of_isWord {n : Int} (h : IsWord n) : o.settle n = .ok n := if_pos h

/-- What no word holds is longer than any length. -/
theorem units_eq (unit count : Int) : units unit count = checked (Delta.ofUnits? unit count) := by
  rw [units, Delta.ofUnits?]
  split
  · rfl
  · next hword =>
    have hlong : Delta.ofSeconds? (count * unit) = none := if_neg fun hlength => hword (.of_isLength hlength)
    rw [hlong]
    rfl

/-- Lengths are short enough for their sum to be exact. -/
theorem sum_eq {a b : Delta} {m n : Int} (ha : Delta.ofSeconds? m = some a)
    (hb : Delta.ofSeconds? n = some b) : sum o a b = checked (a.add? b) := by
  obtain ⟨hm, rfl⟩ := Delta.ofSeconds?_eq_some_iff.mp ha
  obtain ⟨hn, rfl⟩ := Delta.ofSeconds?_eq_some_iff.mp hb
  have hword : IsWord (m + n) := by
    simp only [Delta.IsLength, Delta.maxSeconds] at hm hn
    simp only [IsWord, signedLimit]
    omega
  rw [sum, settle_of_isWord hword]
  rfl

end Operations

end Words

end AutoProxy
