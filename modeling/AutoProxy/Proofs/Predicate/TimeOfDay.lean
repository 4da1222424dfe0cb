import AutoProxy.Proofs.Predicate.DateRange

/-!
Ranges of dates at different times of one day. Both ends of a range take over the time of day of the
present when fields are put in place of its own (`withFields?_on`), and keep it when they move on by
months (`rollForward?_on`). So it is the dates alone that are compared in the end (`inRange_on`), and a
range gives one answer for the whole of a day (`dateRange_eq_of_today_eq`), be it a day of universal time
or of the clock's zone.
-/

namespace AutoProxy.Predicate

open Calendar

/-! ### Dates without times of day -/

/-- The date with the given fields in place of its own. -/
def fieldsOf? (date : Date) (day month year : Option Int) : Option Date :=
  (withFields? (Moment.midnight date) day month year).map Moment.date

/-- The last date of a range that begins on `start` and that `finish` has been found for. -/
def endOf? (start finish : Date) : Option Date :=
  (rollForward? (Moment.midnight start) (Moment.midnight finish)).map Moment.date

section Dates

variable (m m' : Moment)

theorem withFields?_on (date : Date) (day month year : Option Int) :
    withFields? (m.on date) day month year = (fieldsOf? date day month year).map m.on := by
  simp only [fieldsOf?, withFields?, Option.bind_eq_bind, Option.map_bind, Function.comp_def,
    Option.pure_def, Option.map_some]
  rfl

theorem rollForward?_on (start finish : Date) :
    rollForward? (m.on start) (m.on finish) = (endOf? start finish).map m.on := by
  have hmidnight (date : Date) : Moment.midnight date = (Moment.midnight start).on date := rfl
  rw [endOf?, hmidnight start, hmidnight finish]
  cases hlt : finish.lt start with
  | false => rw [rollForward?_of_not_lt hlt, rollForward?_of_not_lt hlt]; rfl
  | true =>
      cases hnext : finish.addMonths? 1 with
      | none => rw [rollForward?_of_none hlt hnext, rollForward?_of_none hlt hnext]; rfl
      | some next =>
          cases hstill : next.lt start with
          | false => rw [rollForward?_of_lt hlt hnext hstill, rollForward?_of_lt hlt hnext hstill]; rfl
          | true =>
              rw [rollForward?_of_lt_lt hlt hnext hstill, rollForward?_of_lt_lt hlt hnext hstill,
                Option.map_map, Option.map_map]
              rfl

/-- A range holds the moments of a date at every time of day, or at none. -/
theorem inRange_on (date : Date) (day month year : Slots) :
    inRange (m.on date) day month year = inRange (m'.on date) day month year := by
  have hle (m : Moment) (first second : Date) : (m.on first).le (m.on second) = !second.lt first := by
    rw [Moment.le, Moment.on_lt_on]
  simp only [inRange, withFields?_on, Option.bind_eq_bind]
  cases hstart : fieldsOf? date day.first month.first year.first with
  | none => rfl
  | some start =>
      simp only [Option.map_some, Option.bind_some, withFields?_on]
      cases hfinish : fieldsOf? start day.last month.last year.last with
      | none => rfl
      | some finish =>
          simp only [Option.map_some, Option.bind_some, rollForward?_on]
          cases endOf? start finish <;> simp [hle]

end Dates

/-! ### What a script asks for -/

/-- Two readings of the clock that show the same date, in universal time if an argument asks for it or else
in the zone of each, get the same answer. Neither the time of day nor, in universal time, the zone counts. -/
theorem dateRange_eq_of_today_eq {now now' : Instant} {arguments : List Argument}
    (h : today now arguments = today now' arguments) :
    dateRange now arguments = dateRange now' arguments := by
  have hgiven : Given arguments _ _ _ := ⟨rfl, rfl, rfl⟩
  obtain ⟨m, hm⟩ : ∃ m, present now (arguments.any Argument.isGmt) = m := ⟨_, rfl⟩
  obtain ⟨m', hm'⟩ : ∃ m, present now' (arguments.any Argument.isGmt) = m := ⟨_, rfl⟩
  have hdate : m.date = m'.date := by
    rw [← hm, ← hm']
    exact h
  rw [dateRange_eq hgiven, dateRange_eq hgiven, hm, hm']
  calc inRange m _ _ _
      = inRange (m.on m.date) _ _ _ := rfl
    _ = inRange (m'.on m.date) _ _ _ := inRange_on m m' m.date _ _ _
    _ = inRange (m'.on m'.date) _ _ _ := by rw [hdate]

/-- A 31st of December begins an hour east of Greenwich, where it is still the 30th. -/
def eveBegins : Instant := ⟨⟨⟨2026, 12, 30⟩, 82800, 0⟩, 3600⟩

/-- It ends two hours west of Greenwich in a leap second, when the year is over there. -/
def eveEnds : Instant := ⟨⟨⟨2027, 1, 1⟩, 7199, 1500000000⟩, -7200⟩

theorem dateRange_eq_of_today_eq_newYearsEve :
    today eveBegins [.number 25, .text "DEC", .number 5, .text "JAN"] =
        today eveEnds [.number 25, .text "DEC", .number 5, .text "JAN"] ∧
      dateRange eveBegins [.number 25, .text "DEC", .number 5, .text "JAN"] = true ∧
      dateRange eveEnds [.number 25, .text "DEC", .number 5, .text "JAN"] = true := by
  have htoday : today eveBegins [.number 25, .text "DEC", .number 5, .text "JAN"] =
      today eveEnds [.number 25, .text "DEC", .number 5, .text "JAN"] := by decide +kernel
  have hends : dateRange eveEnds [.number 25, .text "DEC", .number 5, .text "JAN"] = true := by
    decide +kernel
  exact ⟨htoday, (dateRange_eq_of_today_eq htoday).trans hends, hends⟩

end AutoProxy.Predicate
