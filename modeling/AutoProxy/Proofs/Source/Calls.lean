import AutoProxy.Proofs.Calendar.Order
import AutoProxy.Source.Basic

/-!
Calls to a source, one after another. Between two of them the world outside may change and the clock may
be set, forwards or backwards. `Answers` says what each call answers and what it leaves behind, without a
word on how the source goes about it, and `History` says so for a row of calls; a source keeps to this,
and nothing else conforms to it (`performAll_eq_iff`).

A script of which no expiry was announced is acquired again once the time that the source keeps scripts
has gone by, and not before (`isStale_iff_of_kept`). From the answers alone one can tell which text is
kept: that of the last load which gave one, unless it has been set aside since (`cached_performAll`).
-/

namespace AutoProxy

open Calendar

/-- An entry is stale once a clock has come to the instant at which it expires. -/
def CacheEntry.IsStale (e : CacheEntry) (clock : Instant) : Prop :=
  ∃ at_, e.expiresAt = some at_ ∧ at_.order ≤ clock.order

theorem CacheEntry.isFresh_iff {e : CacheEntry} {clock : Instant} :
    e.isFresh clock.toUtc = true ↔ ¬ e.IsStale clock := by
  cases hexpires : e.expiresAt with
  | none => simp [isFresh, IsStale, Web.Expiry.hasPassed, hexpires]
  | some at_ =>
      have hle : at_.le clock.toUtc = true ↔ at_.order ≤ clock.order := Instant.le_iff
      simp [isFresh, IsStale, Web.Expiry.hasPassed, hexpires, ← hle]

namespace Source

/-! ### Calls -/

/-- A call to a source. A load finds a world outside, and a clock that may show any time. -/
inductive Call where
  | load (outside : Outside) (clock : Instant)
  | cached
  | snapshot
  | invalidate

inductive Reply where
  | script (answer : Except LoadFault String)
  | text (content : Option String)
  | entry (entry : Option CacheEntry)
  | done

/-- What a call answers, and the source afterwards. -/
def perform (s : Source) : Call → Reply × Source
  | .load outside clock => (.script (s.load outside clock).1, (s.load outside clock).2)
  | .cached => (.text s.cached, s)
  | .snapshot => (.entry s.entry, s)
  | .invalidate => (.done, s.invalidate)

/-- What a row of calls answers, and the source after the last of them. -/
def performAll (s : Source) : List Call → List Reply × Source
  | [] => ([], s)
  | call :: rest =>
    ((s.perform call).1 :: ((s.perform call).2.performAll rest).1,
      ((s.perform call).2.performAll rest).2)

/-! ### Acquisitions -/

/-- The longest time for which a source can keep scripts; a longer one is as good as none. -/
def longestTtl : Nat := 9223372036854775807 * 1000000

/-- When a script expires that is acquired now: as has been announced, or when it has been kept for
the time that the source keeps scripts, or never. -/
inductive Expires (s : Source) (now : Instant) : Web.Expiry.Announced → Option Instant → Prop where
  | announced {at_ : Instant} : Expires s now (.on at_) (some at_)
  | kept {ttl : Span} {at_ : Instant} :
      s.fallbackTtl = some ttl → ttl.nanos ≤ longestTtl →
      now.add? ⟨ttl.seconds, ttl.subsecond⟩ = some at_ → at_.count = now.count + ttl.nanos →
      Expires s now .never (some at_)
  | never : (∀ ttl, s.fallbackTtl = some ttl → longestTtl < ttl.nanos) → Expires s now .never none

/-- How an acquisition ends: with an entry of the present, with the fault of the reading, or with no
instant at which what has been read could expire. -/
inductive Acquires (s : Source) (outside : Outside) (now : Instant) :
    Except LoadFault CacheEntry → Prop where
  | read {content : String} {expiry : Web.Expiry.Announced} {expiresAt : Option Instant} :
      fetch outside s.location now = .ok ⟨content, expiry⟩ → s.Expires now expiry expiresAt →
      Acquires s outside now (.ok ⟨content, now, expiresAt⟩)
  | unread {fault : FetchFault} :
      fetch outside s.location now = .error fault → Acquires s outside now (.error (.fetch fault))
  | beyond {content : String} {expiry : Web.Expiry.Announced} :
      fetch outside s.location now = .ok ⟨content, expiry⟩ →
      (∀ expiresAt, ¬ s.Expires now expiry expiresAt) →
      Acquires s outside now (.error .outOfCalendar)

theorem count_delta (ttl : Span) : Delta.count ⟨ttl.seconds, ttl.subsecond⟩ = ttl.nanos := by
  simp only [Delta.count, Span.seconds, Span.subsecond, Span.perSecond, Moment.nanosPerSecond]
  omega

/-- Going on by a length of time leads that many nanoseconds further. -/
theorem count_of_add? {now at_ : Instant} {ttl : Span}
    (h : now.add? ⟨ttl.seconds, ttl.subsecond⟩ = some at_) : at_.count = now.count + ttl.nanos := by
  rw [Instant.count_add? (Int.natCast_nonneg _) (Int.natCast_nonneg _) h, count_delta]

theorem bind_delta?_eq_none_iff {s : Source} :
    s.fallbackTtl.bind delta? = none ↔ ∀ ttl, s.fallbackTtl = some ttl → longestTtl < ttl.nanos := by
  cases s.fallbackTtl with
  | none => simp
  | some ttl => simp [delta?, longestTtl]

theorem bind_delta?_eq_some_iff {s : Source} {d : Delta} :
    s.fallbackTtl.bind delta? = some d ↔
      ∃ ttl, s.fallbackTtl = some ttl ∧ ttl.nanos ≤ longestTtl ∧
        d = ⟨ttl.seconds, ttl.subsecond⟩ := by
  cases s.fallbackTtl with
  | none => simp
  | some ttl => simp [delta?, longestTtl, eq_comm]

theorem expiryOf_eq_ok_iff {s : Source} {expiry : Web.Expiry.Announced} {now : Instant}
    {expiresAt : Option Instant} :
    s.expiryOf expiry now = .ok expiresAt ↔ s.Expires now expiry expiresAt := by
  constructor
  · intro h
    cases expiry with
    | on at_ =>
        cases h
        exact .announced
    | outOfCalendar => cases h
    | never =>
        simp only [expiryOf] at h
        split at h
        · next hnone =>
          cases h
          exact .never (bind_delta?_eq_none_iff.mp hnone)
        · next d hsome =>
          obtain ⟨ttl, httl, hlong, rfl⟩ := bind_delta?_eq_some_iff.mp hsome
          split at h
          · next hadd =>
            cases h
            exact .kept httl hlong hadd (count_of_add? hadd)
          · cases h
  · intro h
    cases h with
    | announced => rfl
    | kept httl hlong hadd hcount =>
        simp only [expiryOf, bind_delta?_eq_some_iff.mpr ⟨_, httl, hlong, rfl⟩, hadd]
    | never hlong => simp only [expiryOf, bind_delta?_eq_none_iff.mpr hlong]

/-- An expiry that is not found is one that would lie outside the calendar. -/
theorem expiryOf_eq_error {s : Source} {expiry : Web.Expiry.Announced} {now : Instant}
    {fault : LoadFault} (h : s.expiryOf expiry now = .error fault) : fault = .outOfCalendar := by
  cases expiry with
  | on at_ => cases h
  | outOfCalendar =>
      cases h
      rfl
  | never =>
      simp only [expiryOf] at h
      split at h
      · cases h
      · split at h
        · cases h
        · cases h
          rfl

theorem acquire_eq_iff {s : Source} {outside : Outside} {now : Instant}
    {outcome : Except LoadFault CacheEntry} :
    s.acquire outside now = outcome ↔ s.Acquires outside now outcome := by
  constructor
  · rintro rfl
    unfold acquire
    split
    · next hfetch => exact .unread hfetch
    · next download hfetch =>
      split
      · next fault hexpiry =>
        obtain rfl := expiryOf_eq_error hexpiry
        refine .beyond hfetch fun expiresAt h => ?_
        rw [expiryOf_eq_ok_iff.mpr h] at hexpiry
        cases hexpiry
      · next hexpiry => exact .read hfetch (expiryOf_eq_ok_iff.mp hexpiry)
  · intro h
    cases h with
    | read hfetch hexpires => simp only [acquire, hfetch, expiryOf_eq_ok_iff.mpr hexpires]
    | unread hfetch => simp only [acquire, hfetch]
    | @beyond content expiry hfetch hnever =>
        cases hexpiry : s.expiryOf expiry now with
        | ok expiresAt => exact absurd (expiryOf_eq_ok_iff.mp hexpiry) (hnever expiresAt)
        | error fault =>
            obtain rfl := expiryOf_eq_error hexpiry
            simp only [acquire, hfetch, hexpiry]

/-- A script of which no expiry was announced is stale, leap seconds aside, exactly when the time that
the source keeps scripts has gone by since it was acquired. -/
theorem isStale_iff_of_kept {s : Source} {outside : Outside} {now clock : Instant} {e : CacheEntry}
    {content : String} (hacquires : s.Acquires outside now (.ok e))
    (hfetch : fetch outside s.location now = .ok ⟨content, .never⟩)
    (hnow : now.IsRegular) (hclock : clock.IsRegular) :
    e.IsStale clock ↔ ∃ ttl, s.fallbackTtl = some ttl ∧ ttl.nanos ≤ longestTtl ∧
      now.count + ttl.nanos ≤ clock.count := by
  cases hacquires with
  | read hread hexpires =>
      rw [hfetch] at hread
      cases hread
      cases hexpires with
      | kept httl hlong hadd hcount =>
          have horder := Instant.order_le_iff (Instant.isRegular_add? hnow hadd) hclock
          simp [CacheEntry.IsStale, horder, httl, hlong, hcount]
      | never hlong =>
          constructor
          · rintro ⟨at_, hat, -⟩
            cases hat
          · rintro ⟨ttl, httl, hle, -⟩
            exact absurd hle (not_le.mpr (hlong ttl httl))

/-! ### The law of calls -/

/-- A source is due when nothing is kept, or what is kept is stale. -/
def IsDue (s : Source) (clock : Instant) : Prop :=
  s.entry = none ∨ ∃ e, s.entry = some e ∧ e.IsStale clock

/-- What a call answers, and the source that it leaves behind. A load acquires exactly if the source is
due; only an acquisition that succeeds replaces what is kept, and it does so as a whole. -/
inductive Answers (s : Source) : Call → Reply → Source → Prop where
  | kept {outside : Outside} {clock : Instant} {e : CacheEntry} :
      s.entry = some e → ¬ e.IsStale clock →
      Answers s (.load outside clock) (.script (.ok e.content)) s
  | acquired {outside : Outside} {clock : Instant} {e : CacheEntry} :
      s.IsDue clock → s.Acquires outside clock.toUtc (.ok e) →
      Answers s (.load outside clock) (.script (.ok e.content))
        { s with entry := some e, fetches := s.fetches + 1 }
  | failed {outside : Outside} {clock : Instant} {fault : LoadFault} :
      s.IsDue clock → s.Acquires outside clock.toUtc (.error fault) →
      Answers s (.load outside clock) (.script (.error fault)) { s with fetches := s.fetches + 1 }
  | cached : Answers s .cached (.text (s.entry.map CacheEntry.content)) s
  | snapshot : Answers s .snapshot (.entry s.entry) s
  | invalidate : Answers s .invalidate .done { s with entry := none }

/-- What a row of calls answers, and the source that it leaves behind. -/
inductive History : Source → List Call → List Reply → Source → Prop where
  | nil {s : Source} : History s [] [] s
  | cons {s t u : Source} {call : Call} {reply : Reply} {calls : List Call} {replies : List Reply} :
      Answers s call reply t → History t calls replies u →
      History s (call :: calls) (reply :: replies) u

theorem not_isDue_iff {s : Source} {clock : Instant} :
    ¬ s.IsDue clock ↔ ∃ e, s.entry = some e ∧ ¬ e.IsStale clock := by
  cases hentry : s.entry with
  | none => simp [IsDue, hentry]
  | some e => simp [IsDue, hentry]

theorem freshContent_eq_none_iff {s : Source} {clock : Instant} :
    s.freshContent clock.toUtc = none ↔ s.IsDue clock := by
  cases hentry : s.entry with
  | none => simp [freshContent, IsDue, hentry]
  | some e =>
      have hfresh : e.isFresh clock.toUtc = true ↔ ¬ e.IsStale clock := CacheEntry.isFresh_iff
      simp [freshContent, IsDue, hentry, Option.filter, hfresh]

theorem freshContent_eq_some_iff {s : Source} {clock : Instant} {content : String} :
    s.freshContent clock.toUtc = some content ↔
      ∃ e, s.entry = some e ∧ ¬ e.IsStale clock ∧ e.content = content := by
  simp [freshContent, CacheEntry.isFresh_iff, and_assoc]

/-- A load that finds something to use gives that and leaves the source alone. -/
theorem load_of_fresh {s : Source} (outside : Outside) {clock : Instant} {content : String}
    (h : s.freshContent clock.toUtc = some content) : s.load outside clock = (.ok content, s) := by
  simp only [load, h]

/-- A load that finds nothing to use acquires. -/
theorem load_of_not_fresh {s : Source} (outside : Outside) {clock : Instant}
    (h : s.freshContent clock.toUtc = none) :
    s.load outside clock =
      match s.acquire outside clock.toUtc with
      | .ok e => (.ok e.content, { s with entry := some e, fetches := s.fetches + 1 })
      | .error fault => (.error fault, { s with fetches := s.fetches + 1 }) := by
  have hacquire :
      acquire { s with fetches := s.fetches + 1 } outside clock.toUtc =
        s.acquire outside clock.toUtc := rfl
  cases houtcome : s.acquire outside clock.toUtc with
  | ok e => simp only [load, h, hacquire, houtcome]
  | error fault => simp only [load, h, hacquire, houtcome]

/-- Each call answers what it should, and nothing else is what it should answer. -/
theorem perform_eq_iff {s t : Source} {call : Call} {reply : Reply} :
    s.perform call = (reply, t) ↔ Answers s call reply t := by
  constructor
  · intro h
    cases call with
    | load outside clock =>
        by_cases hdue : s.IsDue clock
        · have hload := load_of_not_fresh outside (freshContent_eq_none_iff.mpr hdue)
          cases hacquire : s.acquire outside clock.toUtc with
          | ok e =>
              simp only [perform, hload, hacquire] at h
              cases h
              exact .acquired hdue (acquire_eq_iff.mp hacquire)
          | error fault =>
              simp only [perform, hload, hacquire] at h
              cases h
              exact .failed hdue (acquire_eq_iff.mp hacquire)
        · obtain ⟨e, hentry, hfresh⟩ := not_isDue_iff.mp hdue
          have hkept := freshContent_eq_some_iff.mpr ⟨e, hentry, hfresh, rfl⟩
          simp only [perform, load_of_fresh outside hkept] at h
          cases h
          exact .kept hentry hfresh
    | cached =>
        cases h
        exact .cached
    | snapshot =>
        cases h
        exact .snapshot
    | invalidate =>
        cases h
        exact .invalidate
  · intro h
    cases h with
    | kept hentry hfresh =>
        have hkept := freshContent_eq_some_iff.mpr ⟨_, hentry, hfresh, rfl⟩
        simp only [perform, load_of_fresh _ hkept]
    | @acquired outside clock e hdue hacquires =>
        have hload := load_of_not_fresh outside (freshContent_eq_none_iff.mpr hdue)
        simp only [perform, hload, acquire_eq_iff.mpr hacquires]
    | @failed outside clock fault hdue hacquires =>
        have hload := load_of_not_fresh outside (freshContent_eq_none_iff.mpr hdue)
        simp only [perform, hload, acquire_eq_iff.mpr hacquires]
    | cached => rfl
    | snapshot => rfl
    | invalidate => rfl

/-- A row of calls has the answers of its history and leaves behind what its history does. -/
theorem performAll_eq_iff {s t : Source} {calls : List Call} {replies : List Reply} :
    s.performAll calls = (replies, t) ↔ History s calls replies t := by
  constructor
  · intro h
    induction calls generalizing s replies with
    | nil =>
        cases h
        exact .nil
    | cons call rest ih =>
        cases h
        exact .cons (perform_eq_iff.mp rfl) (ih rfl)
  · intro h
    induction h with
    | nil => rfl
    | cons hanswers _ ih => simp only [performAll, perform_eq_iff.mpr hanswers, ih]

/-! ### The text that is kept -/

/-- The text that is kept after a call, as far as the answer tells: a script that a load has given, or
none once it has been set aside. -/
def noted (kept : Option String) : Call × Reply → Option String
  | (.load _ _, .script (.ok content)) => some content
  | (.invalidate, _) => none
  | _ => kept

theorem cached_of_answers {s t : Source} {call : Call} {reply : Reply} (h : Answers s call reply t) :
    t.cached = noted s.cached (call, reply) := by
  cases h with
  | kept hentry _ => simp only [cached, hentry, Option.map_some, noted]
  | acquired _ _ => rfl
  | failed _ _ => rfl
  | cached => rfl
  | snapshot => rfl
  | invalidate => rfl

/-- The text that is kept after a row of calls is the script that a load has given last, unless it has
been set aside since. -/
theorem cached_performAll (s : Source) (calls : List Call) :
    (s.performAll calls).2.cached = (calls.zip (s.performAll calls).1).foldl noted s.cached := by
  induction calls generalizing s with
  | nil => rfl
  | cons call rest ih =>
      have hstep : (s.perform call).2.cached = noted s.cached (call, (s.perform call).1) :=
        cached_of_answers (perform_eq_iff.mp rfl)
      rw [performAll, List.zip_cons_cons, List.foldl_cons, ← hstep]
      exact ih _

end Source

end AutoProxy
