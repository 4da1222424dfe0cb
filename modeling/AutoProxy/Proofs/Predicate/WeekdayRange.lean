import AutoProxy.Proofs.Predicate.Present
import AutoProxy.Proofs.Text

/-!
Ranges of weekdays. The week is a circle of seven days, and a range is the arc from its first day forward
to its last one (`weekdayRange_eq`), so that of seven days in a row as many belong to it as the arc has
(`weekdayRange_arc`). A text names a day if it is the abbreviation of one in any case of its letters
(`NamesDay`); the arc ends where it begins if there is no such second text (`EndsOn`).
-/

namespace AutoProxy.Predicate

open Calendar

/-! ### Names of days -/

/-- In a list of different words a text can have one place at most: that of the word it is. -/
theorem placeOf?_eq_some_iff {name : String} {names : List String} {place : Nat}
    (hdistinct : names.Pairwise fun a b => Text.sameWord a b = false) :
    placeOf? name names = some place ↔
      ∃ word, names[place]? = some word ∧ Text.sameWord word name = true := by
  rw [placeOf?, List.findIdx?_eq_some_iff_getElem]
  constructor
  · rintro ⟨hlt, hsame, -⟩
    exact ⟨names[place], List.getElem?_eq_getElem hlt, hsame⟩
  · rintro ⟨word, hword, hsame⟩
    obtain ⟨hlt, rfl⟩ := List.getElem?_eq_some_iff.mp hword
    refine ⟨hlt, hsame, ?_⟩
    intro before hbefore hagain
    have hboth : Text.sameWord names[before] names[place] = true := by
      rw [Text.sameWord_iff] at hagain hsame ⊢
      rw [hagain, hsame]
    rw [List.pairwise_iff_getElem.mp hdistinct before place (by omega) hlt hbefore] at hboth
    cases hboth

/-- The text is the name of a day of the week, counted from Sunday, in any case of its letters. -/
def NamesDay (text : String) (day : Nat) : Prop :=
  ∃ name, dayNames[day]? = some name ∧ Text.sameWord name text = true

/-- The day on which a range ends that begins on `first`: the one that the second text names, or that
same day if there is no second text or if it names none. -/
inductive EndsOn (first : Nat) : Option String → Nat → Prop where
  | named {text : String} {last : Nat} : NamesDay text last → EndsOn first (some text) last
  | single {second : Option String} :
      (∀ text, second = some text → ∀ day, ¬ NamesDay text day) → EndsOn first second first

theorem placeOf?_dayNames_iff {text : String} {day : Nat} :
    placeOf? text dayNames = some day ↔ NamesDay text day :=
  placeOf?_eq_some_iff (by decide)

theorem NamesDay.lt {text : String} {day : Nat} (h : NamesDay text day) : day < 7 := by
  obtain ⟨name, hname, -⟩ := h
  exact (List.getElem?_eq_some_iff.mp hname).1

theorem getD_of_endsOn {first last : Nat} {second : Option String} (h : EndsOn first second last) :
    (second.bind fun text => placeOf? text dayNames).getD first = last := by
  cases h with
  | named hnames =>
      rw [Option.bind_some, placeOf?_dayNames_iff.mpr hnames]
      rfl
  | single hnone =>
      cases second with
      | none => rfl
      | some text =>
          have hplace : placeOf? text dayNames = none := by
            rw [Option.eq_none_iff_forall_ne_some]
            intro day hday
            exact hnone text rfl day (placeOf?_dayNames_iff.mp hday)
          rw [Option.bind_some, hplace]
          rfl

theorem EndsOn.lt {first last : Nat} {second : Option String} (h : EndsOn first second last)
    (hfirst : first < 7) : last < 7 := by
  cases h with
  | named hnames => exact hnames.lt
  | single => exact hfirst

/-! ### The circle of the week -/

/-- The number of the day that a clock shows, counted from the first of January 1970: of the day of
universal time, or of the clock's zone. -/
def dayShown (now : Instant) (gmt : Bool) : Int := (present now gmt).date.dayNumber

/-- A range of weekdays is the arc from its first day to its last one. -/
theorem weekdayRange_eq {day1 : String} {day2 : Option String} {first last : Nat}
    (hfirst : NamesDay day1 first) (hlast : EndsOn first day2 last) (now : Instant) (gmt : Option String) :
    weekdayRange now day1 day2 gmt =
      decide (((dayShown now (weekdayGmt day2 gmt) + 4) % 7 - first) % 7 ≤ ((last : Int) - first) % 7) := by
  obtain ⟨today, htoday⟩ : ∃ today : Nat, (today : Int) = (dayShown now (weekdayGmt day2 gmt) + 4) % 7 :=
    ⟨_, Int.toNat_of_nonneg (Int.emod_nonneg _ (by decide))⟩
  have hweekday : (present now (weekdayGmt day2 gmt)).date.weekday = today := by
    rw [Date.weekday, ← dayShown, ← htoday, Int.toNat_natCast]
  simp only [weekdayRange, placeOf?_dayNames_iff.mpr hfirst, getD_of_endsOn hlast, hweekday, ← htoday]
  exact Arc.between_eq (n := 7) hfirst.lt (hlast.lt hfirst.lt) (by omega)

/-- A range of weekdays is an arc of the circle of the week: it holds a reading of the clock if the weekday
of the day shown lies no further ahead of the first day than the last day does. That day is the one to which
the seconds that have gone by since 1970, with those of the zone, come; and of any seven days in a row as many
are in the range as the arc has. -/
theorem weekdayRange_arc {day1 : String} {day2 gmt : Option String} {first last : Nat}
    (hfirst : NamesDay day1 first) (hlast : EndsOn first day2 last) :
    (∀ now, weekdayRange now day1 day2 gmt = true ↔
      ((dayShown now (weekdayGmt day2 gmt) + 4) % 7 - first) % 7 ≤ ((last : Int) - first) % 7) ∧
    (∀ now : Instant, now.IsReading → isTold now (weekdayGmt day2 gmt) = true →
      dayShown now (weekdayGmt day2 gmt) =
        (now.universal.date.dayNumber * Moment.secondsPerDay + now.universal.second +
          (if weekdayGmt day2 gmt then 0 else now.offset)) / Moment.secondsPerDay) ∧
    ∀ (readings : List Instant) (n : Int),
      readings.map (dayShown · (weekdayGmt day2 gmt)) = (List.range 7).map (fun k : Nat => n + k) →
      readings.countP (weekdayRange · day1 day2 gmt) = (((last : Int) - first) % 7).toNat + 1 := by
  refine ⟨?_, ?_, ?_⟩
  · intro now
    rw [weekdayRange_eq hfirst hlast, decide_eq_true_eq]
  · intro now hnow htold
    exact dayNumber_present hnow.second htold
  · intro readings n hrow
    have hshift (day : Int) : ((day + 4) % 7 - first) % 7 = (day - (first - 4)) % 7 := by omega
    simp only [weekdayRange_eq hfirst hlast, hshift]
    obtain ⟨length, hlength⟩ : ∃ length : Nat, (length : Int) = ((last : Int) - first) % 7 :=
      ⟨_, Int.toNat_of_nonneg (Int.emod_nonneg _ (by decide))⟩
    rw [← hlength, Int.toNat_natCast, ← Arc.countP_arc (n := 7) n (first - 4) (by omega), ← hrow,
      List.countP_map]
    rfl

/-- Ten in the morning of a day of universal time, on a clock fourteen hours ahead of it, which shows the
next day. -/
def farEast (day : Int) : Instant := ⟨⟨Date.ofDayNumber day, 36000, 0⟩, 50400⟩

/-- From Friday to Monday, in the first days of 1970 and the last ones before them. -/
theorem weekdayRange_arc_newYear :
    (NamesDay "fri" 5 ∧ EndsOn 5 (some "Mon") 1) ∧
    weekdayRange (farEast 0) "fri" (some "Mon") none = true ∧
    ((farEast 0).IsReading ∧ isTold (farEast 0) false = true ∧ dayShown (farEast 0) false = 1) ∧
    ((List.range 7).map fun k : Nat => farEast (k - 4)).map (dayShown · false) =
      (List.range 7).map (fun k : Nat => -3 + (k : Int)) ∧
    ((List.range 7).map fun k : Nat => farEast (k - 4)).countP
      (weekdayRange · "fri" (some "Mon") none) = 4 := by
  have hfirst : NamesDay "fri" 5 := ⟨"FRI", rfl, by decide⟩
  have hlast : EndsOn 5 (some "Mon") 1 := .named ⟨"MON", rfl, by decide⟩
  have hnow : (farEast 0).IsReading := ⟨by decide, by decide⟩
  have htold : isTold (farEast 0) false = true := by decide
  have hrow : ((List.range 7).map fun k : Nat => farEast (k - 4)).map (dayShown · false) =
      (List.range 7).map (fun k : Nat => -3 + (k : Int)) := by decide +kernel
  obtain ⟨harc, hday, hcount⟩ := @weekdayRange_arc _ _ none _ _ hfirst hlast
  exact ⟨⟨hfirst, hlast⟩, (harc (farEast 0)).mpr (by decide), ⟨hnow, htold, (hday _ hnow htold).trans rfl⟩,
    hrow, hcount _ (-3) hrow⟩

end AutoProxy.Predicate
