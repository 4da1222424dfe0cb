import AutoProxy.Proofs.Calendar.Limits
import AutoProxy.Proofs.Source.Calls
import AutoProxy.Proofs.Web.Expiry
import AutoProxy.Settings.Load

/-!
Scripts that would outlive the calendar. A script expires some time after it has been acquired, which is
for the server to say, or else for the settings of the source; neither is held within bounds. Where the
calendar is over by then, the acquisition breaks down (`Overruns`), and this is all that can keep a load
from ending with a script or with the fault of the acquisition (`load_returns_iff`). On any clock that
shows one of the first ten thousand years there are some 252 000 years left (`load_returns_of_le`).
-/

namespace AutoProxy

open Calendar

/-! ### Announcements -/

namespace Web.Expiry

variable {headers : List Header} {now : Instant}

/-- There is an instant until which a directive lets a response be kept unless the calendar is over by
then. -/
theorem Directive.instant?_eq_none_iff (hnow : now.IsReading)
    (hnano : now.universal.nano < 2 * Moment.nanosPerSecond) {directive : Directive} :
    directive.instant? now = none ↔
      ∃ age, directive = .keep age ∧ now.EndsWithin (age * Moment.nanosPerSecond) := by
  have hbounds := Instant.count_bounds hnow hnano
  rw [Date.dayNumber_first] at hbounds
  cases directive with
  | discard => simp [instant?]
  | keep age =>
      simp only [keep.injEq, exists_eq_left', instant?, Delta.ofSeconds?, Instant.EndsWithin]
      split
      · rw [Option.bind_some, Instant.add?_eq_none_iff hnow hnano (Int.le_max_right ..) (Int.le_refl _)]
        simp only [Instant.EndsWithin, Delta.count, Moment.nanosPerSecond, Moment.lastSecond] at *
        omega
      · -- a length of time that cannot be represented is longer than the calendar
        next hlong =>
        simp only [Option.bind_none, true_iff]
        simp only [Delta.maxSeconds, Moment.secondsPerDay, Moment.nanosPerSecond, Moment.lastSecond] at *
        omega

/-- The expiry of a response lies outside the calendar exactly if the calendar is over by the time that a
`max-age` gives, and this is the directive that decides. -/
theorem announced_eq_outOfCalendar_iff (hnow : now.IsReading)
    (hnano : now.universal.nano < 2 * Moment.nanosPerSecond) :
    announced headers now = .outOfCalendar ↔
      ∃ age, Decides headers (.keep age) ∧ now.EndsWithin (age * Moment.nanosPerSecond) := by
  dsimp only [announced]
  simp only [← bind_deciding?_eq_some_iff]
  cases hdecides : ((Header.find? "Cache-Control" headers).bind Header.text?).bind deciding? with
  | none =>
      cases (Header.find? "Expires" headers).bind Header.text? <;> simp
  | some directive =>
      have hnone : directive.instant? now.toUtc = none ↔
          ∃ age, directive = .keep age ∧ now.EndsWithin (age * Moment.nanosPerSecond) :=
        Directive.instant?_eq_none_iff hnow.toUtc hnano
      simp only [Option.some.injEq]
      rw [← hnone]
      cases directive.instant? now.toUtc <;> simp

end Web.Expiry

namespace Source

/-! ### Acquisitions -/

/-- What is at the location of a source now would be kept until the calendar is over. -/
inductive Overruns (s : Source) (outside : Outside) (now : Instant) : Prop where
  /-- Its server lets it be kept for too long. -/
  | announced {url : Url} {reply : Web.Reply} {age : Int} :
      s.location = .remote url →
      Web.finalReply outside.transport Web.maxMoves (Web.asked url) = .ok reply →
      reply.isSuccess = true → Web.Expiry.Decides reply.headers (.keep age) →
      now.EndsWithin (age * Moment.nanosPerSecond) → Overruns s outside now
  /-- Nothing is said of its expiry, and the source keeps scripts for too long. -/
  | kept {content : String} {ttl : Span} :
      fetch outside s.location now = .ok ⟨content, .never⟩ → s.fallbackTtl = some ttl →
      ttl.nanos ≤ longestTtl → now.EndsWithin ttl.nanos → Overruns s outside now

section

variable {s : Source} {outside : Outside} {now clock : Instant}

theorem expiryOf_never_eq_error_iff (hnow : now.IsReading)
    (hnano : now.universal.nano < 2 * Moment.nanosPerSecond) :
    s.expiryOf .never now = .error .outOfCalendar ↔
      ∃ ttl, s.fallbackTtl = some ttl ∧ ttl.nanos ≤ longestTtl ∧ now.EndsWithin ttl.nanos := by
  simp only [expiryOf]
  cases hdelta : s.fallbackTtl.bind delta? with
  | none =>
      have hlong := bind_delta?_eq_none_iff.mp hdelta
      simp only [reduceCtorEq, false_iff, not_exists, not_and]
      intro ttl httl hshort
      exact absurd hshort (not_le.mpr (hlong ttl httl))
  | some d =>
      obtain ⟨ttl, httl, hshort, rfl⟩ := bind_delta?_eq_some_iff.mp hdelta
      have hadd := Instant.add?_eq_none_iff hnow hnano (d := ⟨ttl.seconds, ttl.subsecond⟩)
        (Int.natCast_nonneg _) (Int.natCast_nonneg _)
      rw [count_delta] at hadd
      simp only [httl, Option.some.injEq, exists_eq_left', hshort, true_and, ← hadd]
      cases now.add? ⟨ttl.seconds, ttl.subsecond⟩ <;> simp

/-- What is fetched expires outside the calendar only if it comes from a server that says so. -/
theorem fetch_eq_outOfCalendar_iff (hnow : now.IsReading)
    (hnano : now.universal.nano < 2 * Moment.nanosPerSecond) :
    (∃ content, fetch outside s.location now = .ok ⟨content, .outOfCalendar⟩) ↔
      ∃ url reply age, s.location = .remote url ∧
        Web.finalReply outside.transport Web.maxMoves (Web.asked url) = .ok reply ∧
        reply.isSuccess = true ∧ Web.Expiry.Decides reply.headers (.keep age) ∧
        now.EndsWithin (age * Moment.nanosPerSecond) := by
  cases s.location with
  | file path => cases hread : outside.read path <;> simp [fetch, hread]
  | inline script => simp [fetch]
  | remote url =>
      have hannounced (reply : Web.Reply) :
          Web.Expiry.announced reply.headers now = .outOfCalendar ↔ _ :=
        Web.Expiry.announced_eq_outOfCalendar_iff hnow hnano
      simp only [Location.remote.injEq, exists_and_left, exists_eq_left', fetch, Web.download]
      cases hreply : Web.finalReply outside.transport Web.maxMoves (Web.asked url) with
      | error fault => simp
      | ok reply => cases hsuccess : reply.isSuccess <;> simp [hsuccess, hannounced]

/-- An acquisition breaks down exactly if what is acquired would be kept until the calendar is over. -/
theorem acquire_eq_outOfCalendar_iff (hnow : now.IsReading)
    (hnano : now.universal.nano < 2 * Moment.nanosPerSecond) :
    s.acquire outside now = .error .outOfCalendar ↔ s.Overruns outside now := by
  constructor
  · intro h
    cases acquire_eq_iff.mp h with
    | @beyond content expiry hfetch hnever =>
        cases expiry with
        | on at_ => exact absurd .announced (hnever (some at_))
        | outOfCalendar =>
            obtain ⟨url, reply, age, hlocation, hreply, hsuccess, hdecides, hends⟩ :=
              (fetch_eq_outOfCalendar_iff hnow hnano).mp ⟨content, hfetch⟩
            exact .announced hlocation hreply hsuccess hdecides hends
        | never =>
            cases hexpiry : s.expiryOf .never now with
            | ok expiresAt => exact absurd (expiryOf_eq_ok_iff.mp hexpiry) (hnever expiresAt)
            | error fault =>
                obtain rfl := expiryOf_eq_error hexpiry
                obtain ⟨ttl, httl, hshort, hends⟩ := (expiryOf_never_eq_error_iff hnow hnano).mp hexpiry
                exact .kept hfetch httl hshort hends
  · intro h
    cases h with
    | announced hlocation hreply hsuccess hdecides hends =>
        obtain ⟨content, hfetch⟩ := (fetch_eq_outOfCalendar_iff hnow hnano).mpr
          ⟨_, _, _, hlocation, hreply, hsuccess, hdecides, hends⟩
        simp only [acquire, hfetch, expiryOf]
    | kept hfetch httl hshort hends =>
        have hexpiry := (expiryOf_never_eq_error_iff hnow hnano).mpr ⟨_, httl, hshort, hends⟩
        simp only [acquire, hfetch, hexpiry]

/-! ### Loads -/

/-- A load breaks down exactly if its acquisition does. -/
theorem load_eq_outOfCalendar_iff (hclock : clock.IsReading)
    (hnano : clock.universal.nano < 2 * Moment.nanosPerSecond) :
    (s.load outside clock).1 = .error .outOfCalendar ↔
      s.IsDue clock ∧ s.Overruns outside clock.toUtc := by
  rw [← acquire_eq_outOfCalendar_iff hclock.toUtc hnano, ← freshContent_eq_none_iff]
  cases hfresh : s.freshContent clock.toUtc with
  | some content => simp [load_of_fresh outside hfresh]
  | none =>
      rw [load_of_not_fresh outside hfresh]
      cases s.acquire outside clock.toUtc <;> simp

/-- What a load ends with is a script or the fault of the acquisition, unless it breaks down. -/
theorem load_returns_iff_ne :
    ((∃ content, (s.load outside clock).1 = .ok content) ∨
        ∃ fault, (s.load outside clock).1 = .error (.fetch fault)) ↔
      (s.load outside clock).1 ≠ .error .outOfCalendar := by
  cases (s.load outside clock).1 with
  | ok content => simp
  | error fault => cases fault <;> simp

/-- A load ends with a script or with the fault of the acquisition, unless the source is due and what is at
its location would be kept until the calendar is over. -/
theorem load_returns_iff (hclock : clock.IsReading)
    (hnano : clock.universal.nano < 2 * Moment.nanosPerSecond) :
    ((∃ content, (s.load outside clock).1 = .ok content) ∨
        ∃ fault, (s.load outside clock).1 = .error (.fetch fault)) ↔
      ¬ (s.IsDue clock ∧ s.Overruns outside clock.toUtc) := by
  rw [load_returns_iff_ne, ne_eq, load_eq_outOfCalendar_iff hclock hnano]

/-- The seconds of the calendar that are left, at the least, on a clock that shows a year up to 9999. -/
def secondsLeft : Int := 7956864575999

theorem not_endsWithin_of_le (hclock : clock.IsReading)
    (hnano : clock.universal.nano < 2 * Moment.nanosPerSecond) (hyear : clock.universal.date.year ≤ 9999)
    {nanos : Int} (hnanos : nanos ≤ secondsLeft * Moment.nanosPerSecond) : ¬ clock.EndsWithin nanos := by
  have hday : clock.universal.date.dayNumber ≤ (⟨9999, 12, 31⟩ : Date).dayNumber :=
    (Date.isProper_of_isValid hclock.date).dayNumber_le_yearEnd hyear
  have hlast : (⟨9999, 12, 31⟩ : Date).dayNumber = 2932896 := by decide
  have hsecond := hclock.second
  rw [hlast] at hday
  simp only [Instant.EndsWithin, Instant.count, Moment.count]
  simp only [secondsLeft, Moment.lastSecond, Moment.secondsPerDay, Moment.nanosPerSecond] at *
  omega

/-- On a clock that shows a year up to 9999 every load ends with a script or with the fault of the
acquisition, if neither the server nor the settings say to keep scripts for longer than some 252 000
years. -/
theorem load_returns_of_le (hclock : clock.IsReading)
    (hnano : clock.universal.nano < 2 * Moment.nanosPerSecond) (hyear : clock.universal.date.year ≤ 9999)
    (hserver : ∀ url reply age, s.location = .remote url →
      Web.finalReply outside.transport Web.maxMoves (Web.asked url) = .ok reply →
      Web.Expiry.Decides reply.headers (.keep age) → age ≤ secondsLeft)
    (hsettings : ∀ ttl, s.fallbackTtl = some ttl → (ttl.nanos : Int) ≤ secondsLeft * Moment.nanosPerSecond) :
    (∃ content, (s.load outside clock).1 = .ok content) ∨
      ∃ fault, (s.load outside clock).1 = .error (.fetch fault) := by
  rw [load_returns_iff_ne, ne_eq, load_eq_outOfCalendar_iff hclock hnano]
  rintro ⟨-, hoverruns⟩
  cases hoverruns with
  | announced hlocation hreply hsuccess hdecides hends =>
      have hage := hserver _ _ _ hlocation hreply hdecides
      exact not_endsWithin_of_le hclock hnano hyear
        (Int.mul_le_mul_of_nonneg_right hage (by decide)) hends
  | kept hfetch httl hshort hends =>
      exact not_endsWithin_of_le hclock hnano hyear (hsettings _ httl) hends

end

/-! ### Two that break down -/

/-- A world in which every file is empty, and every server lets its empty pages be kept for as many seconds
as a text says. -/
def keeping (age : String) : Outside where
  read _ := .ok []
  transport _ := some ⟨200, [Web.Expiry.line "Cache-Control" ("max-age=" ++ age)], []⟩

/-- Settings by which scripts of which no expiry is announced are kept for some years. -/
def keptFor (years : Nat) (h : years * Span.Unit.year.nanos < 18446744073709551616 * 1000000000) : Settings :=
  { script := { source := some "proxy.pac", fallbackTtl := some ⟨years * Span.Unit.year.nanos, h⟩ } }

def scriptUrl : Url :=
  { scheme := "http", authority := some { host := some (.domain "a.example") }, path := .names ["proxy.pac"] }

theorem load_returns_iff_daily :
    Web.Expiry.noon.IsReading ∧ Web.Expiry.noon.universal.nano < 2 * Moment.nanosPerSecond ∧
      ¬ ((ofLocation (.remote scriptUrl) {}).IsDue Web.Expiry.noon ∧
        (ofLocation (.remote scriptUrl) {}).Overruns (keeping "86400") Web.Expiry.noon.toUtc) := by
  have hreading : Web.Expiry.noon.IsReading := ⟨by decide, by decide⟩
  have hnano : Web.Expiry.noon.universal.nano < 2 * Moment.nanosPerSecond := by decide
  have hload : ((ofLocation (.remote scriptUrl) {}).load (keeping "86400") Web.Expiry.noon).1 = .ok "" := by
    decide
  exact ⟨hreading, hnano, (load_returns_iff hreading hnano).mp (.inl ⟨_, hload⟩)⟩

/-- Settings that pass their check do not keep a load from breaking down, be it for what the server announces
or for the time that they say themselves. -/
theorem load_breaksDown :
    (({} : Settings).check = .ok () ∧
      ((ofLocation (.remote scriptUrl) {}).load (keeping "99999999999999") Web.Expiry.noon).1 =
        .error .outOfCalendar) ∧
    ((keptFor 300000 (by decide)).check = .ok () ∧
      ((ofLocation (.file (Path.ofText "proxy.pac")) (keptFor 300000 (by decide)).script).load (keeping "0")
        Web.Expiry.noon).1 = .error .outOfCalendar) := by
  refine ⟨⟨rfl, ?_⟩, ⟨?_, ?_⟩⟩ <;> decide

end Source

end AutoProxy
