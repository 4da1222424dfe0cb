import AutoProxy.Proofs.Predicate.Present
import AutoProxy.Proofs.Calendar.Shift

/-!
Ranges of times of day. The numbers of a range name its start and its end in one of four forms
(`Window`), which are told apart by how many numbers there are (`timeFields_append`); a request for
universal time stands right behind them (`timeGmt_append`). For fields of a day both ends are seconds of
today (`TimeFields.IsOfDay.exists_second`). Seconds of a day lie on a circle, so that a range that passes
midnight is an arc of it as much as one that does not (`timeRange_arc`).
-/

namespace AutoProxy.Predicate

open Calendar

/-! ### Times of a day -/

namespace TimeFields

structure IsOfDay (t : TimeFields) : Prop where
  hour : 0 ≤ t.hour ∧ t.hour < 24
  minute : 0 ≤ t.minute ∧ t.minute < 60
  second : 0 ≤ t.second ∧ t.second < 60

def count (t : TimeFields) : Int := t.hour * 3600 + t.minute * 60 + t.second

theorem IsOfDay.count_bounds {t : TimeFields} (h : t.IsOfDay) :
    0 ≤ t.count ∧ t.count < Moment.secondsPerDay := by
  obtain ⟨hhour, hminute, hsecond⟩ := h
  simp only [count, Moment.secondsPerDay]
  omega

end TimeFields

theorem ofSeconds?_of_le {seconds : Int} (h : 0 ≤ seconds ∧ seconds ≤ Moment.secondsPerDay) :
    Delta.ofSeconds? seconds = some ⟨seconds, 0⟩ := by
  refine Delta.ofSeconds?_eq_some_iff.mpr ⟨?_, rfl⟩
  simp only [Moment.secondsPerDay, Delta.IsLength, Delta.maxSeconds] at h ⊢
  omega

theorem midnight_add? (date : Date) (seconds : Int) :
    (Moment.midnight date).add? ⟨seconds, 0⟩ = Moment.normalize? date seconds 0 := by
  simp [Moment.add?, Moment.midnight, Moment.nanosPerSecond]

/-- A time of day lies so many seconds behind the midnight of its date. -/
theorem timeOfDay?_eq {date : Date} (hdate : date.isValid = true) {t : TimeFields} (ht : t.IsOfDay) :
    timeOfDay? date t = some ⟨date, t.count.toNat, 0⟩ := by
  have hcount := ht.count_bounds
  obtain ⟨hhour, hminute, hsecond⟩ := ht
  simp only [TimeFields.count, Moment.secondsPerDay] at hcount
  have hhours : Delta.ofUnits? 3600 t.hour = some ⟨t.hour * 3600, 0⟩ :=
    ofSeconds?_of_le (by simp only [Moment.secondsPerDay]; omega)
  have hminutes : Delta.ofUnits? 60 t.minute = some ⟨t.minute * 60, 0⟩ :=
    ofSeconds?_of_le (by simp only [Moment.secondsPerDay]; omega)
  have hseconds : Delta.ofSeconds? t.second = some ⟨t.second, 0⟩ :=
    ofSeconds?_of_le (by simp only [Moment.secondsPerDay]; omega)
  have hupTo : Delta.add? ⟨t.hour * 3600, 0⟩ ⟨t.minute * 60, 0⟩ =
      some ⟨t.hour * 3600 + t.minute * 60, 0⟩ :=
    ofSeconds?_of_le (by simp only [Moment.secondsPerDay]; omega)
  have hoffset : Delta.add? ⟨t.hour * 3600 + t.minute * 60, 0⟩ ⟨t.second, 0⟩ = some ⟨t.count, 0⟩ :=
    ofSeconds?_of_le (by simp only [Moment.secondsPerDay]; omega)
  have hsameDay : date.addDays? (t.count / Moment.secondsPerDay) = some date := by
    refine Date.addDays?_eq_some hdate ?_
    simp only [TimeFields.count, Moment.secondsPerDay]
    omega
  have hrest : t.count % Moment.secondsPerDay = t.count := Int.emod_eq_of_lt hcount.1 hcount.2
  simp only [timeOfDay?, hhours, hminutes, hseconds, hupTo, hoffset, Option.bind_eq_bind, Option.bind_some,
    midnight_add?, Moment.normalize?, hsameDay, Option.map_some, hrest]

/-- It is one of the seconds of a day, the same on every date. -/
theorem TimeFields.IsOfDay.exists_second {t : TimeFields} (h : t.IsOfDay) :
    ∃ second : Nat, (second : Int) = t.count ∧ second < 86400 ∧
      ∀ date : Date, date.isValid = true → timeOfDay? date t = some ⟨date, second, 0⟩ := by
  obtain ⟨hnonneg, hlt⟩ := h.count_bounds
  simp only [Moment.secondsPerDay] at hlt
  refine ⟨t.count.toNat, Int.toNat_of_nonneg hnonneg, by omega, ?_⟩
  intro date hdate
  exact timeOfDay?_eq hdate h

/-! ### The forms of a range -/

/-- Start and end of a range in each of the forms in which numbers give them: an hour from its beginning to
its end, hours, hours and minutes, and hours, minutes and seconds. -/
inductive Window : List Int → TimeFields → TimeFields → Prop where
  | hour (h : Int) : Window [h] ⟨h, 0, 0⟩ ⟨h, 59, 59⟩
  | hours (h h' : Int) : Window [h, h'] ⟨h, 0, 0⟩ ⟨h', 59, 59⟩
  | minutes (h m h' m' : Int) : Window [h, m, h', m'] ⟨h, m, 0⟩ ⟨h', m', 59⟩
  | seconds (h m s h' m' s' : Int) : Window [h, m, s, h', m', s'] ⟨h, m, s⟩ ⟨h', m', s'⟩

/-- The arguments of a range in one of its forms: numbers with these integer parts, and behind them nothing
that is a number, and no request for universal time except right behind them. -/
structure Asks (numbers rest : List Argument) (values : List Int) : Prop where
  given : numbers.map Argument.int? = values.map some
  none_else : ∀ argument ∈ rest, argument.int? = none
  marker : ∀ argument ∈ rest.tail, argument.isGmt = false

section Forms

variable {numbers rest : List Argument} {values : List Int} {first last : TimeFields}

theorem Asks.length_eq (h : Asks numbers rest values) : numbers.length = values.length := by
  simpa using congrArg List.length h.given

/-- The places of the arguments that hold numbers are those of the values. -/
theorem Asks.int?_getElem? (h : Asks numbers rest values) (place : Nat) :
    ((numbers ++ rest)[place]?).bind Argument.int? = values[place]? := by
  rcases Nat.lt_or_ge place numbers.length with hlt | hge
  · have hvalue : (numbers[place]?).map Argument.int? = (values[place]?).map some := by
      rw [← List.getElem?_map, h.given, List.getElem?_map]
    rw [List.getElem?_append_left hlt]
    cases hnumber : numbers[place]? <;> cases hplace : values[place]? <;> simp_all
  · have hnone : values[place]? = none := List.getElem?_eq_none (h.length_eq ▸ hge)
    rw [List.getElem?_append_right hge, hnone, Option.bind_eq_none_iff]
    intro argument hargument
    exact h.none_else argument (List.mem_of_getElem? hargument)

/-- The numbers alone tell the forms apart. -/
theorem timeFields_append (h : Asks numbers rest values) (hwindow : Window values first last) :
    timeFields (numbers ++ rest) = .ok (first, last) := by
  simp only [timeFields, required, h.int?_getElem?]
  cases hwindow <;> rfl

/-- A number does not ask for universal time. -/
theorem isGmt_of_int? {argument : Argument} {n : Int} (h : argument.int? = some n) :
    argument.isGmt = false := by
  cases argument with
  | number x => rfl
  | text s => cases h
  | missing => rfl

/-- Of all places of the arguments the one behind the numbers is the only one that may ask for universal
time. -/
theorem Asks.any_isGmt_getElem? (h : Asks numbers rest values) (place : Nat) :
    ((numbers ++ rest)[place]?).any Argument.isGmt =
      (decide (place = values.length) && rest.head?.any Argument.isGmt) := by
  rw [← h.length_eq]
  rcases Nat.lt_trichotomy place numbers.length with hlt | rfl | hgt
  · obtain ⟨n, hn⟩ : ∃ n, numbers[place].int? = some n := by
      have hmem : numbers[place].int? ∈ values.map some :=
        h.given ▸ List.mem_map_of_mem (List.getElem_mem hlt)
      obtain ⟨n, -, hn⟩ := List.mem_map.mp hmem
      exact ⟨n, hn.symm⟩
    simp [List.getElem?_append_left hlt, List.getElem?_eq_getElem hlt, isGmt_of_int? hn, Nat.ne_of_lt hlt]
  · simp [List.head?_eq_getElem?, List.getElem?_append_right]
  · obtain ⟨j, rfl⟩ := Nat.exists_eq_add_of_lt hgt
    have hplace : (numbers ++ rest)[numbers.length + j + 1]? = rest.tail[j]? := by
      rw [List.getElem?_append_right (by omega), List.getElem?_tail]
      congr 1
      omega
    have hnot : (rest.tail[j]?).any Argument.isGmt = false := by
      cases hargument : rest.tail[j]? with
      | none => rfl
      | some argument => exact h.marker argument (List.mem_of_getElem? hargument)
    rw [hplace, hnot]
    simp [show numbers.length + j + 1 ≠ numbers.length by omega]

/-- Universal time is asked for right behind the numbers. -/
theorem timeGmt_append (h : Asks numbers rest values) (hwindow : Window values first last) :
    timeGmt (numbers ++ rest) = rest.head?.any Argument.isGmt := by
  simp only [timeGmt, gmtPlaces, h.any_isGmt_getElem?]
  cases hwindow <;> simp

end Forms

/-! ### The circle of the day -/

/-- Seconds of one date are compared as numbers. -/
theorem lt_of_date (date : Date) (second second' : Nat) :
    Moment.lt ⟨date, second, 0⟩ ⟨date, second', 0⟩ = decide (second < second') := by
  simp [Moment.lt, Date.lt_irrefl]

theorem le_of_date (date : Date) (second second' : Nat) :
    Moment.le ⟨date, second, 0⟩ ⟨date, second', 0⟩ = decide (second ≤ second') := by
  rw [Moment.le, lt_of_date, Bool.eq_iff_iff]
  simp

/-- A range of times of day is the arc from its start to its end on the circle of the 86400 seconds of a
day, both included: it holds a reading of the clock if the second of the day that is shown, whatever its
fraction and whatever the date, lies no further ahead of the start than the end does. The clock is read in
universal time if that is asked for right behind the numbers, or else in its zone, by whose seconds it is
ahead. -/
theorem timeRange_arc {now : Instant} (hnow : now.IsReading) {numbers rest : List Argument}
    {values : List Int} {first last : TimeFields} (hasks : Asks numbers rest values)
    (hwindow : Window values first last) (hfirst : first.IsOfDay) (hlast : last.IsOfDay) :
    timeRange now (numbers ++ rest) =
        .ok (decide (((present now (rest.head?.any Argument.isGmt)).second - first.count) % 86400 ≤
          (last.count - first.count) % 86400)) ∧
      (isTold now (rest.head?.any Argument.isGmt) = true →
        ((present now (rest.head?.any Argument.isGmt)).second : Int) =
          (now.universal.second + (if rest.head?.any Argument.isGmt then 0 else now.offset)) % 86400) := by
  refine ⟨?_, second_present hnow.second⟩
  obtain ⟨current, hcurrent⟩ : ∃ m, present now (rest.head?.any Argument.isGmt) = m := ⟨_, rfl⟩
  have hdate : current.date.isValid = true := hcurrent ▸ isValid_present hnow.date _
  have hsecond : current.second < Moment.secondsPerDay := hcurrent ▸ second_present_lt hnow.second _
  simp only [Moment.secondsPerDay] at hsecond
  obtain ⟨start, hstart, hstartLt, hstartAt⟩ := hfirst.exists_second
  obtain ⟨finish, hfinish, hfinishLt, hfinishAt⟩ := hlast.exists_second
  have hends : timeRange now (numbers ++ rest) = .ok (if finish < start
      then decide (start ≤ current.second) || decide (current.second ≤ finish)
      else decide (start ≤ current.second) && decide (current.second ≤ finish)) := by
    simp only [timeRange, timeGmt_append hasks hwindow, timeFields_append hasks hwindow, hcurrent,
      Moment.wholeSecond, bind, Except.bind, hstartAt _ hdate, hfinishAt _ hdate, lt_of_date, le_of_date,
      decide_eq_true_eq]
    split <;> rfl
  rw [hends, hcurrent, ← hstart, ← hfinish]
  exact congrArg Except.ok (Arc.between_eq (n := 86400) hstartLt hfinishLt (by omega))

/-- The leap second at the end of 2016, nine hours ahead of universal time. -/
def leapSecond : Instant := ⟨⟨⟨2016, 12, 31⟩, 86399, 1500000000⟩, 32400⟩

/-- In universal time the leap second lies in a range that passes midnight; on its own clock it is the last
one before nine o'clock. -/
theorem timeRange_arc_leapSecond :
    leapSecond.IsReading ∧
    (Asks [.number 22.5, .number 30, .number 2, .number 15.9] [.text "gmt"] [22, 30, 2, 15] ∧
      Window [22, 30, 2, 15] ⟨22, 30, 0⟩ ⟨2, 15, 59⟩ ∧
      timeRange leapSecond [.number 22.5, .number 30, .number 2, .number 15.9, .text "gmt"] = .ok true) ∧
    Asks [.number 9, .number 17] [] [9, 17] ∧ Window [9, 17] ⟨9, 0, 0⟩ ⟨17, 59, 59⟩ ∧
      isTold leapSecond false = true ∧ (present leapSecond false).second = 32399 ∧
      timeRange leapSecond [.number 9, .number 17] = .ok false := by
  have hnow : leapSecond.IsReading := ⟨by decide, by decide⟩
  have hnight : Asks [.number 22.5, .number 30, .number 2, .number 15.9] [.text "gmt"] [22, 30, 2, 15] :=
    ⟨by decide, by decide, by decide⟩
  have hday : Asks [.number 9, .number 17] [] [9, 17] := ⟨by decide, by decide, by decide⟩
  have hofNight := timeRange_arc hnow hnight (.minutes 22 30 2 15) ⟨by decide, by decide, by decide⟩
    ⟨by decide, by decide, by decide⟩
  have hofDay := timeRange_arc hnow hday (.hours 9 17) ⟨by decide, by decide, by decide⟩
    ⟨by decide, by decide, by decide⟩
  have htold : isTold leapSecond false = true := by decide
  exact ⟨hnow, ⟨hnight, .minutes 22 30 2 15, hofNight.1.trans (by decide)⟩, hday, .hours 9 17, htold,
    Int.ofNat_inj.mp (hofDay.2 htold), hofDay.1.trans (by decide)⟩

end AutoProxy.Predicate
