import Mathlib.Order.Bounds.Basic
import AutoProxy.Proofs.Double
import AutoProxy.Proofs.Predicate.Words

/-!
Which arguments of a range of times matter, and what is wrong with them. A range reads the numbers at its first
places, as many as its form has, and which form it has is told from the last of its places that holds a number
(`lastPlace`, `timeFields_eq_mapM`). The first of these places without a number is the one that the error names
(`timeFields_eq_error_iff`). Numbers up to a thousand millions fit into the calendar in the years of four
digits (`exists_at`). Nothing else of the arguments counts but a request for universal time
(`timeRange_eq_of_reads`).
-/

namespace AutoProxy.Predicate

open Calendar

/-! ### Arguments by their places -/

def Argument.IsFinite (a : Argument) : Prop := ∃ x : Float, a = .number x ∧ x.isFinite = true

/-- A number of magnitude at most a thousand millions. -/
def Argument.IsModerate (a : Argument) : Prop := ∃ x : Float, a = .number x ∧ -1e9 ≤ x ∧ x ≤ 1e9

/-- Neither a finite number nor a request for universal time, such as any other text. -/
def Argument.IsSilent (a : Argument) : Prop := ¬ a.IsFinite ∧ a.isGmt = false

/-- The argument at a place, counted from zero; places behind the last argument are empty. -/
def argumentAt (arguments : List Argument) (place : Nat) : Argument := arguments.getD place .missing

section Places

variable {a : Argument} {arguments : List Argument} {place : Nat}

theorem Argument.isSome_int?_iff : a.int?.isSome = true ↔ a.IsFinite := by
  cases a with
  | number x => simp [int?, IsFinite, Number.isSome_truncate?_iff]
  | text s => simp [int?, IsFinite]
  | missing => simp [int?, IsFinite]

instance (a : Argument) : Decidable a.IsFinite := decidable_of_iff _ Argument.isSome_int?_iff

theorem Argument.int?_eq_none_iff : a.int? = none ↔ ¬ a.IsFinite := by
  rw [← isSome_int?_iff, Option.not_isSome_iff_eq_none]

/-- The integer part of a moderate number is moderate, and a word holds it as it is. -/
theorem Argument.IsModerate.exists_int? (h : a.IsModerate) :
    ∃ n, a.int? = some n ∧ -1000000000 ≤ n ∧ n ≤ 1000000000 := by
  obtain ⟨x, rfl, hlow, hhigh⟩ := h
  obtain ⟨n, hn, hbounds⟩ := Number.truncate?_of_le hlow hhigh
  have hword : Number.clamp64 n = n := by
    rw [Number.clamp64, Number.signedLimit, if_neg (by omega), if_pos (by omega)]
  exact ⟨n, by rw [int?, hn, Option.map_some, hword], hbounds⟩

theorem int?_argumentAt : (argumentAt arguments place).int? = (arguments[place]?).bind Argument.int? := by
  rw [argumentAt, List.getD_eq_getElem?_getD]
  cases arguments[place]? <;> rfl

theorem isGmt_argumentAt : (argumentAt arguments place).isGmt = (arguments[place]?).any Argument.isGmt := by
  rw [argumentAt, List.getD_eq_getElem?_getD]
  cases arguments[place]? <;> rfl

end Places

/-! ### Numbers at the first places -/

/-- The last place at which a range takes a number: it has as many as the largest of its forms whose last place
holds one. -/
def lastPlace (arguments : List Argument) : Nat :=
  if (argumentAt arguments 5).IsFinite then 5
  else if (argumentAt arguments 3).IsFinite then 3
  else if (argumentAt arguments 1).IsFinite then 1
  else 0

/-- Start and end of a range by its numbers. -/
def startAndEnd : List Int → TimeFields × TimeFields
  | [h, m, s, h', m', s'] => (⟨h, m, s⟩, ⟨h', m', s'⟩)
  | [h, m, h', m'] => (⟨h, m, 0⟩, ⟨h', m', 59⟩)
  | [h, h'] => (⟨h, 0, 0⟩, ⟨h', 59, 59⟩)
  | numbers => (⟨numbers.headD 0, 0, 0⟩, ⟨numbers.headD 0, 59, 59⟩)

/-- No number of a time of day is larger than a thousand millions. -/
structure TimeFields.IsModerate (t : TimeFields) : Prop where
  hour : -1000000000 ≤ t.hour ∧ t.hour ≤ 1000000000
  minute : -1000000000 ≤ t.minute ∧ t.minute ≤ 1000000000
  second : -1000000000 ≤ t.second ∧ t.second ≤ 1000000000

theorem startAndEnd_isModerate {numbers : List Int}
    (h : ∀ n ∈ numbers, -1000000000 ≤ n ∧ n ≤ 1000000000) :
    (startAndEnd numbers).1.IsModerate ∧ (startAndEnd numbers).2.IsModerate := by
  have hzero : (-1000000000 : Int) ≤ 0 ∧ (0 : Int) ≤ 1000000000 := by decide
  have hlast : (-1000000000 : Int) ≤ 59 ∧ (59 : Int) ≤ 1000000000 := by decide
  unfold startAndEnd
  split
  · exact ⟨⟨h _ (by simp), h _ (by simp), h _ (by simp)⟩, ⟨h _ (by simp), h _ (by simp), h _ (by simp)⟩⟩
  · exact ⟨⟨h _ (by simp), h _ (by simp), hzero⟩, ⟨h _ (by simp), h _ (by simp), hlast⟩⟩
  · exact ⟨⟨h _ (by simp), hzero, hzero⟩, ⟨h _ (by simp), hlast, hlast⟩⟩
  · have hhead : -1000000000 ≤ numbers.headD 0 ∧ numbers.headD 0 ≤ 1000000000 := by
      cases numbers with
      | nil => exact hzero
      | cons n numbers => exact h n List.mem_cons_self
    exact ⟨⟨hhead, hzero, hzero⟩, ⟨hhead, hlast, hlast⟩⟩

section Forms

variable {arguments : List Argument} {fault : TimeRangeError}

theorem required_of_int? {place : Nat} {n : Int} (h : (argumentAt arguments place).int? = some n) :
    required arguments place = .ok n := by
  rw [int?_argumentAt] at h
  rw [required, h]

theorem required_of_not_isFinite {place : Nat} (h : ¬ (argumentAt arguments place).IsFinite) :
    required arguments place = .error (.notANumber (place + 1)) := by
  rw [← Argument.int?_eq_none_iff, int?_argumentAt] at h
  rw [required, h]

/-- A range reads its numbers one after the other, as many as its form has. -/
theorem timeFields_eq_mapM : timeFields arguments =
    startAndEnd <$> (List.range (lastPlace arguments + 1)).mapM (required arguments) := by
  simp only [timeFields, lastPlace, ← int?_argumentAt, Argument.isSome_int?_iff]
  split_ifs <;> simp [List.range, List.range.loop, startAndEnd]

/-- Which of the first arguments, counted from one, are no finite numbers. -/
def gaps (arguments : List Argument) (count : Nat) : Set Nat :=
  {position | 1 ≤ position ∧ position ≤ count ∧ ¬ (argumentAt arguments (position - 1)).IsFinite}

/-- If all places hold moderate numbers, then these are read. -/
theorem exists_mapM_required {count : Nat}
    (h : ∀ place < count, (argumentAt arguments place).IsModerate) :
    ∃ numbers, (List.range count).mapM (required arguments) = .ok numbers ∧
      ∀ n ∈ numbers, -1000000000 ≤ n ∧ n ≤ 1000000000 := by
  induction count with
  | zero => exact ⟨[], rfl, by simp⟩
  | succ count ih =>
      obtain ⟨numbers, hnumbers, hbounds⟩ := ih fun place hplace => h place (by omega)
      obtain ⟨n, hn, hn'⟩ := (h count (by omega)).exists_int?
      refine ⟨numbers ++ [n], ?_, ?_⟩
      · rw [List.range_succ, List.mapM_append, hnumbers, List.mapM_cons, required_of_int? hn]
        rfl
      · intro m hm
        rcases List.mem_append.mp hm with hm | hm
        · exact hbounds m hm
        · rw [List.mem_singleton.mp hm]
          exact hn'

/-- All places hold numbers, or else the first one without is what is wrong. -/
theorem mapM_required_cases (arguments : List Argument) (count : Nat) :
    ((∀ place < count, (argumentAt arguments place).IsFinite) ∧
        ∃ numbers, (List.range count).mapM (required arguments) = .ok numbers) ∨
      ∃ position, IsLeast (gaps arguments count) position ∧
        (List.range count).mapM (required arguments) = .error (.notANumber position) := by
  induction count with
  | zero => exact .inl ⟨fun place hplace => absurd hplace (Nat.not_lt_zero place), [], rfl⟩
  | succ count ih =>
      rw [List.range_succ, List.mapM_append]
      rcases ih with ⟨hall, numbers, hnumbers⟩ | ⟨position, ⟨⟨hpos, hle, hgap⟩, hleast⟩, herror⟩
      · rw [hnumbers, List.mapM_cons]
        by_cases hcount : (argumentAt arguments count).IsFinite
        · obtain ⟨n, hn⟩ := Option.isSome_iff_exists.mp (Argument.isSome_int?_iff.mpr hcount)
          refine .inl ⟨?_, numbers ++ [n], by rw [required_of_int? hn]; rfl⟩
          intro place hplace
          rcases Nat.lt_succ_iff_lt_or_eq.mp hplace with hlt | rfl
          · exact hall place hlt
          · exact hcount
        · refine .inr ⟨count + 1, ⟨⟨Nat.succ_pos count, le_rfl, hcount⟩, ?_⟩, ?_⟩
          · rintro other ⟨hother, -, hgap⟩
            by_contra hlt
            exact hgap (hall (other - 1) (by omega))
          · rw [required_of_not_isFinite hcount]
            rfl
      · refine .inr ⟨position, ⟨⟨hpos, Nat.le_succ_of_le hle, hgap⟩, ?_⟩, by rw [herror]; rfl⟩
        rintro other ⟨hother, hbelow, hgap'⟩
        rcases Nat.le_succ_iff.mp hbelow with hlow | rfl
        · exact hleast ⟨hother, hlow, hgap'⟩
        · exact Nat.le_succ_of_le hle

/-- A range of times has no start and end exactly if one of the arguments that it reads is no number, and then
the first of them is named. -/
theorem timeFields_eq_error_iff :
    timeFields arguments = .error fault ↔
      ∃ position, IsLeast (gaps arguments (lastPlace arguments + 1)) position ∧
        fault = .notANumber position := by
  rw [timeFields_eq_mapM]
  rcases mapM_required_cases arguments (lastPlace arguments + 1) with
    ⟨hall, numbers, hnumbers⟩ | ⟨position, hposition, herror⟩
  · rw [hnumbers]
    constructor
    · intro h
      cases h
    · rintro ⟨position, ⟨⟨hpos, hle, hgap⟩, -⟩, -⟩
      exact absurd (hall (position - 1) (by omega)) hgap
  · rw [herror]
    constructor
    · intro h
      cases h
      exact ⟨position, hposition, rfl⟩
    · rintro ⟨other, hother, rfl⟩
      rw [hposition.unique hother]
      rfl

end Forms

/-! ### The calendar in the years of four digits -/

section Calendar

variable {date : Date}

theorem dayNumber_bounds_of_year (hdate : date.isValid = true) (hyear : 0 ≤ date.year ∧ date.year ≤ 9999) :
    -3000000 ≤ date.dayNumber ∧ date.dayNumber ≤ 3000000 := by
  have hinto := Date.daysInto_bounds (Date.isProper_of_isValid hdate)
  have hmarch : date.year - 1 ≤ date.marchYear ∧ date.marchYear ≤ date.year := by
    rw [Date.marchYear]
    split_ifs <;> omega
  rw [Date.dayNumber_eq, Date.daysBefore]
  split_ifs at hinto <;> omega

/-- Moderate numbers do not lead out of the calendar. -/
theorem exists_at (hdate : date.isValid = true) (hyear : 0 ≤ date.year ∧ date.year ≤ 9999) {t : TimeFields}
    (ht : t.IsModerate) : ∃ m, t.At date m := by
  have hday := dayNumber_bounds_of_year hdate hyear
  obtain ⟨hhour, hminute, hsecond⟩ := ht
  have hfits : (Moment.normalize? date t.count 0).isSome = true := by
    rw [Moment.isSome_normalize?_iff, Date.dayNumber_first]
    simp only [TimeFields.count, Moment.secondsPerDay, Moment.lastSecond]
    omega
  obtain ⟨m, hm⟩ := Option.isSome_iff_exists.mp hfits
  obtain ⟨hvalid, hwithin, hwhole, htotal⟩ := Moment.normalize?_eq_some_iff.mp hm
  refine ⟨m, ?_, ?_, ?_, ?_, hvalid, hwithin, hwhole, htotal⟩ <;>
    simp only [Delta.IsLength, Delta.maxSeconds] <;> omega

/-- In these years a clock can be told in every zone that is less than a day ahead or behind. -/
theorem isTold_of_year {now : Instant} (hnow : now.IsReading)
    (hoffset : -Moment.secondsPerDay < now.offset ∧ now.offset < Moment.secondsPerDay) {gmt : Bool}
    (hyear : 0 ≤ (present now gmt).date.year ∧ (present now gmt).date.year ≤ 9999) :
    isTold now gmt = true := by
  cases gmt with
  | true => rfl
  | false =>
      show now.local?.isSome = true
      by_contra huntold
      -- a clock that cannot be told shows universal time, and the calendar goes on for days from there
      have hshown : present now false = now.universal := by
        show now.local?.getD now.universal = now.universal
        rw [Option.not_isSome_iff_eq_none.mp huntold, Option.getD_none]
      rw [hshown] at hyear
      have hday := dayNumber_bounds_of_year hnow.date hyear
      have hsecond := hnow.second
      refine huntold (Moment.isSome_normalize?_iff.mpr ?_)
      rw [Date.dayNumber_first]
      simp only [Moment.secondsPerDay, Moment.lastSecond] at hoffset hsecond ⊢
      omega

end Calendar

/-! ### Outcomes -/

section Outcomes

variable {now : Instant} {arguments : List Argument}

theorem TimeRangeError.message_notANumber (position : Nat) :
    (notANumber position).message = "timeRange: argument " ++ position.repr ++ " must be a number" := rfl

theorem TimeRangeError.message_outOfRange : outOfRange.message = "timeRange: time out of range" := rfl

/-- The wording of an error tells its place. -/
theorem TimeRangeError.message_eq_iff {fault : TimeRangeError} {position : Nat} :
    fault.message = "timeRange: argument " ++ position.repr ++ " must be a number" ↔
      fault = .notANumber position := by
  constructor
  · intro h
    cases fault with
    | notANumber place =>
        rw [message_notANumber, String.append_left_inj, String.append_right_inj, ← String.toList_inj,
          Nat.toList_repr, Nat.toList_repr] at h
        have hread := congrArg (Nat.ofDigitChars 10 · 0) h
        simp only [Nat.ofDigitChars_ten_toDigits] at hread
        rw [hread]
    | outOfRange =>
        -- the two wordings part behind their first eleven characters
        rw [message_outOfRange] at h
        have hrest := congrArg (fun s : String => s.toList.drop 11) h
        simp at hrest
  · rintro rfl
    exact message_notANumber position

theorem timeRange_eq_notANumber_iff {position : Nat} :
    timeRange now arguments = .error (.notANumber position) ↔
      timeFields arguments = .error (.notANumber position) := by
  rw [timeRange_eq_timeEnds?, timeEnds?]
  cases timeFields arguments with
  | error fault => simp [Except.map]
  | ok ends =>
      obtain ⟨first, last⟩ := ends
      dsimp only
      cases timeOfDay? (present now (timeGmt arguments)).date first <;>
        cases timeOfDay? (present now (timeGmt arguments)).date last <;> simp [Except.map]

/-- Of the arguments a range reads the integer parts of numbers and the requests for universal time, at the
first seven places. -/
theorem timeRange_eq_of_reads {others : List Argument}
    (hint : ∀ place < 7, (argumentAt others place).int? = (argumentAt arguments place).int?)
    (hgmt : ∀ place < 7, (argumentAt others place).isGmt = (argumentAt arguments place).isGmt) :
    timeRange now others = timeRange now arguments := by
  have hfields : timeFields others = timeFields arguments := by
    simp only [timeFields, required, ← int?_argumentAt]
    simp only [hint _ (show 0 < 7 by decide), hint _ (show 1 < 7 by decide), hint _ (show 2 < 7 by decide),
      hint _ (show 3 < 7 by decide), hint _ (show 4 < 7 by decide), hint _ (show 5 < 7 by decide)]
  have hzone : timeGmt others = timeGmt arguments := by
    simp only [timeGmt, gmtPlaces, List.any_cons, List.any_nil, ← isGmt_argumentAt]
    simp only [hgmt _ (show 1 < 7 by decide), hgmt _ (show 2 < 7 by decide), hgmt _ (show 4 < 7 by decide),
      hgmt _ (show 6 < 7 by decide)]
  rw [timeRange, timeRange, hfields, hzone]

/-- If all places that a range reads hold moderate numbers, in a year of four digits, then it has an answer. -/
theorem exists_timeRange_eq_ok (hnow : now.IsReading)
    (hnumbers : ∀ place ≤ lastPlace arguments, (argumentAt arguments place).IsModerate)
    (hyear : 0 ≤ (present now (timeGmt arguments)).date.year ∧
      (present now (timeGmt arguments)).date.year ≤ 9999) :
    ∃ answer, timeRange now arguments = .ok answer := by
  have hmoderate : ∀ place < lastPlace arguments + 1, (argumentAt arguments place).IsModerate :=
    fun place hplace => hnumbers place (Nat.lt_succ_iff.mp hplace)
  obtain ⟨numbers, hread, hbounds⟩ := exists_mapM_required hmoderate
  have hfields : timeFields arguments = .ok (startAndEnd numbers) := by
    rw [timeFields_eq_mapM, hread]
    rfl
  have hends := startAndEnd_isModerate hbounds
  have hdate := isValid_present hnow.date (timeGmt arguments)
  cases hanswer : timeRange now arguments with
  | ok answer => exact ⟨answer, rfl⟩
  | error fault =>
      cases fault with
      | notANumber position =>
          rw [timeRange_eq_notANumber_iff, hfields] at hanswer
          cases hanswer
      | outOfRange =>
          have htold := (timeRange_eq_outOfRange_iff hnow hfields).mp hanswer
          exact absurd ⟨exists_at hdate hyear hends.1, exists_at hdate hyear hends.2⟩ htold

/-- Let the form of a range be the one that the last of its places with a number tells. If some of the arguments
of this form are no finite numbers, then this is an error, which names the first of them, and there is no other
error that does. Moderate numbers at all of them have an answer in the years of four digits, in which the clock
can be told. Nothing else matters: neither what stands behind the seventh argument nor which text, or nothing at
all, stands where there is neither a number nor a request for universal time. -/
theorem timeRange_arguments (hnow : now.IsReading) (arguments : List Argument) :
    (∀ position : Nat,
      (∃ fault, timeRange now arguments = .error fault ∧
          fault.message = "timeRange: argument " ++ position.repr ++ " must be a number") ↔
        IsLeast (gaps arguments (lastPlace arguments + 1)) position) ∧
    ((∀ place ≤ lastPlace arguments, (argumentAt arguments place).IsModerate) →
      0 ≤ (present now (timeGmt arguments)).date.year ∧
        (present now (timeGmt arguments)).date.year ≤ 9999 →
      (∃ answer, timeRange now arguments = .ok answer) ∧
        (-Moment.secondsPerDay < now.offset ∧ now.offset < Moment.secondsPerDay →
          isTold now (timeGmt arguments) = true)) ∧
    ∀ others : List Argument,
      (∀ place < 7, argumentAt others place = argumentAt arguments place ∨
        (argumentAt others place).IsSilent ∧ (argumentAt arguments place).IsSilent) →
      timeRange now others = timeRange now arguments := by
  refine ⟨?_, ?_, ?_⟩
  · intro position
    have herror : timeRange now arguments = .error (.notANumber position) ↔
        IsLeast (gaps arguments (lastPlace arguments + 1)) position := by
      rw [timeRange_eq_notANumber_iff, timeFields_eq_error_iff]
      simp
    rw [← herror]
    constructor
    · rintro ⟨fault, hfault, hmessage⟩
      rwa [TimeRangeError.message_eq_iff.mp hmessage] at hfault
    · intro h
      exact ⟨_, h, TimeRangeError.message_notANumber position⟩
  · intro hnumbers hyear
    exact ⟨exists_timeRange_eq_ok hnow hnumbers hyear, fun hoffset => isTold_of_year hnow hoffset hyear⟩
  · intro others hsame
    refine timeRange_eq_of_reads ?_ ?_
    · intro place hplace
      rcases hsame place hplace with heq | ⟨hother, hgiven⟩
      · rw [heq]
      · rw [Argument.int?_eq_none_iff.mpr hother.1, Argument.int?_eq_none_iff.mpr hgiven.1]
    · intro place hplace
      rcases hsame place hplace with heq | ⟨hother, hgiven⟩
      · rw [heq]
      · rw [hother.2, hgiven.2]

/-- Of a text and a value that is no number the error names the text, which comes first. Hours of a thousand
millions have an answer even in a leap second, and texts between and behind them and the request for universal
time do not change it. -/
theorem timeRange_arguments_leapSecond :
    leapSecond.IsReading ∧
    (∃ fault, timeRange leapSecond [.number 22.5, .text "noon", .number (0.0 / 0.0), .number 5] = .error fault ∧
      fault.message = "timeRange: argument 2 must be a number") ∧
    (∃ answer, timeRange leapSecond [.number 1e9, .number (-1e9), .text "gmt"] = .ok answer) ∧
    timeRange leapSecond [.number 1e9, .number (-1e9), .text "gmt", .text "noon", .missing, .text "", .missing,
        .number 7] =
      timeRange leapSecond [.number 1e9, .number (-1e9), .text "gmt"] := by
  have hnow : leapSecond.IsReading := ⟨by decide, by decide⟩
  refine ⟨hnow, ?_, ?_, ?_⟩
  · refine ((timeRange_arguments hnow _).1 2).mpr ⟨⟨by decide, by decide, by decide⟩, ?_⟩
    rintro position ⟨hpos, -, hgap⟩
    by_contra hlt
    obtain rfl : position = 1 := by omega
    exact hgap (by decide)
  · refine ((timeRange_arguments hnow _).2.1 ?_ (by decide)).1
    intro place hplace
    have hlast : lastPlace [.number 1e9, .number (-1e9), .text "gmt"] = 1 := by decide
    obtain rfl | rfl : place = 0 ∨ place = 1 := by omega
    · exact ⟨1e9, rfl, by decide, by decide⟩
    · exact ⟨-1e9, rfl, by decide, by decide⟩
  · refine (timeRange_arguments hnow _).2.2 _ ?_
    intro place hplace
    obtain rfl | rfl | rfl | rfl | rfl | rfl | rfl :
      place = 0 ∨ place = 1 ∨ place = 2 ∨ place = 3 ∨ place = 4 ∨ place = 5 ∨ place = 6 := by omega
    · exact .inl rfl
    · exact .inl rfl
    · exact .inl rfl
    · exact .inr ⟨⟨by decide, by decide⟩, by decide, by decide⟩
    · exact .inl rfl
    · exact .inr ⟨⟨by decide, by decide⟩, by decide, by decide⟩
    · exact .inl rfl

end Outcomes

end AutoProxy.Predicate
