import Mathlib.Data.List.Rotate
import AutoProxy.Predicate.Calendar
import AutoProxy.Proofs.Calendar.Limits

/-!
What the calendar predicates compare. The moment that they compare with lies on a day of the calendar
(`isValid_present`) and within that day (`second_present_lt`), whichever zone it is read in. Where the
clock's zone has a date, the seconds since 1970 and those of the zone add up to the day
(`dayNumber_present`) and to the second of the day (`second_present`).

Weekdays and times of day are places of a circle, the numbers below some `n`. An arc runs from its first place
forward to its last one, past zero if the last place comes before the first. A place lies on the arc if it
is no further ahead of the first place than the last one is (`between_eq`). Wherever the circle is cut open,
an arc has as many places as it is long (`countP_arc`).
-/

namespace AutoProxy.Arc

/-! ## Arcs of a circle -/

variable {n : Nat}

/-- How far a place lies ahead of another: by their difference, or by that and a whole turn. -/
theorem ahead_eq {start place : Int} (hstart : 0 ≤ start ∧ start < n) (hplace : 0 ≤ place ∧ place < n) :
    (place - start) % n = if start ≤ place then place - start else place - start + n := by
  split
  · exact Int.emod_eq_of_lt (by omega) (by omega)
  · rw [← Int.add_emod_right]
    exact Int.emod_eq_of_lt (by omega) (by omega)

/-- A place lies between the ends of an arc, or on one of its two pieces if the arc runs past zero, exactly
if it is no further ahead of the first place than the last one is. -/
theorem between_eq {first last place : Nat} (hfirst : first < n) (hlast : last < n) (hplace : place < n) :
    (if last < first then decide (first ≤ place) || decide (place ≤ last)
      else decide (first ≤ place) && decide (place ≤ last)) =
    decide (((place : Int) - first) % n ≤ ((last : Int) - first) % n) := by
  rw [ahead_eq (by omega) (by omega), ahead_eq (by omega) (by omega), Bool.eq_iff_iff]
  split
  all_goals
    simp only [Bool.or_eq_true, Bool.and_eq_true, decide_eq_true_eq]
    split <;> split <;> omega

theorem countP_range_le (n length : Nat) :
    (List.range n).countP (fun k => decide (k ≤ length)) = min n (length + 1) := by
  induction n with
  | zero => rfl
  | succ n ih =>
      rw [List.range_succ, List.countP_append, ih]
      by_cases h : n ≤ length
      · simp [h]
        omega
      · simp [h]
        omega

/-- Of a whole turn, wherever it begins, an arc has as many places as it is long. -/
theorem countP_arc (start first : Int) {length : Nat} (hlength : length < n) :
    ((List.range n).map fun k : Nat => start + k).countP
      (fun place => decide ((place - first) % n ≤ length)) = length + 1 := by
  obtain ⟨begun, hbegun⟩ : ∃ begun : Nat, (begun : Int) = (start - first) % n :=
    ⟨_, Int.toNat_of_nonneg (Int.emod_nonneg _ (by omega))⟩
  -- the turn is the one from zero on, rotated
  have hturn : (List.range n).rotate begun = (List.range n).map fun k => (begun + k) % n := by
    apply List.ext_getElem
    · simp
    · intro k _ _
      rw [List.getElem_rotate]
      simp [Nat.add_comm]
  calc ((List.range n).map fun k : Nat => start + k).countP
        (fun place => decide ((place - first) % n ≤ length))
      = ((List.range n).map fun k => (begun + k) % n).countP (fun k => decide (k ≤ length)) := by
        rw [List.countP_map, List.countP_map]
        apply List.countP_congr
        intro k _
        have hplace : (start + k - first) % n = (((begun + k) % n : Nat) : Int) := by
          rw [Int.natCast_emod, Int.natCast_add, hbegun, Int.emod_add_emod]
          congr 1
          omega
        simp only [Function.comp_apply, hplace, decide_eq_true_eq, Int.ofNat_le]
    _ = ((List.range n).rotate begun).countP (fun k => decide (k ≤ length)) := by rw [hturn]
    _ = (List.range n).countP (fun k => decide (k ≤ length)) := (List.rotate_perm _ _).countP_eq _
    _ = length + 1 := by
        rw [countP_range_le]
        omega

end AutoProxy.Arc

/-! ## The present -/

namespace AutoProxy.Predicate

open Calendar

variable {now : Instant}

/-- The present lies on a day of the calendar, in whichever zone. -/
theorem isValid_present (h : now.universal.date.isValid = true) (gmt : Bool) :
    (present now gmt).date.isValid = true := by
  cases gmt with
  | true => exact h
  | false =>
      show now.localMoment.date.isValid = true
      rw [Instant.localMoment]
      cases hlocal : now.local? with
      | none => exact h
      | some m =>
          obtain ⟨date, hdate, rfl⟩ := Option.map_eq_some_iff.mp hlocal
          exact Date.isValid_addDays? hdate

/-- The present lies within its day. -/
theorem second_present_lt (h : now.universal.second < Moment.secondsPerDay) (gmt : Bool) :
    (present now gmt).second < Moment.secondsPerDay := by
  cases gmt with
  | true => exact h
  | false =>
      show now.localMoment.second < Moment.secondsPerDay
      rw [Instant.localMoment]
      cases hlocal : now.local? with
      | none => exact h
      | some m => exact Moment.second_normalize?_lt hlocal

/-- Where the clock's zone has a date, what it shows is counted from the start of the day of universal time
on. -/
theorem normalize?_of_isTold (h : isTold now false = true) :
    Moment.normalize? now.universal.date (now.universal.second + now.offset) now.universal.nano =
      some (present now false) := by
  obtain ⟨m, hlocal⟩ := Option.isSome_iff_exists.mp (show now.local?.isSome = true from h)
  have hshown : present now false = m := by
    show now.localMoment = m
    rw [Instant.localMoment, hlocal]
    rfl
  rw [hshown]
  exact hlocal

/-- Where the clock's zone has a date, the days since 1970 are the whole days of the seconds that have gone
by since then, and of those by which the zone is ahead. -/
theorem dayNumber_present (h : now.universal.second < Moment.secondsPerDay) {gmt : Bool}
    (htold : isTold now gmt = true) :
    (present now gmt).date.dayNumber =
      (now.universal.date.dayNumber * Moment.secondsPerDay + now.universal.second +
        (if gmt then 0 else now.offset)) / Moment.secondsPerDay := by
  simp only [Moment.secondsPerDay] at h ⊢
  cases gmt with
  | true =>
      show now.universal.date.dayNumber = _
      simp only [if_true]
      omega
  | false =>
      obtain ⟨date, hdate, hshown⟩ := Option.map_eq_some_iff.mp (normalize?_of_isTold htold)
      rw [← hshown]
      dsimp only
      rw [Date.dayNumber_addDays? hdate]
      simp only [Moment.secondsPerDay, Bool.false_eq_true, if_false]
      omega

/-- The second of the day is what is left of those seconds when the whole days are taken off. -/
theorem second_present (h : now.universal.second < Moment.secondsPerDay) {gmt : Bool}
    (htold : isTold now gmt = true) :
    ((present now gmt).second : Int) =
      (now.universal.second + (if gmt then 0 else now.offset)) % Moment.secondsPerDay := by
  cases gmt with
  | true =>
      show (now.universal.second : Int) = _
      simp only [if_true, Int.add_zero]
      exact (Int.emod_eq_of_lt (Int.natCast_nonneg _) h).symm
  | false =>
      obtain ⟨date, -, hshown⟩ := Option.map_eq_some_iff.mp (normalize?_of_isTold htold)
      rw [← hshown]
      simp only [Bool.false_eq_true, if_false]
      exact Int.toNat_of_nonneg (Int.emod_nonneg _ (by decide))

end AutoProxy.Predicate
