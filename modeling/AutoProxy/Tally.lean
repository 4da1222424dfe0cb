import AutoProxy.Number.Double
import AutoProxy.Span

/-!
What a resolver counts. Each event adds to the counts that can be asked for and, at the same time,
to counters that are exported. The exported counters are doubles and therefore exact up to 2^53;
beyond, each sum is rounded to the nearest double.

In the text in which counters are exported each has a line that explains it, a line with its kind
and a line with its value, in the order of their names.
-/

namespace AutoProxy.Tally

/-! ### Counts -/

/-- The counts that can be asked for, words of 64 bits. -/
structure Counts where
  resolutions : UInt64 := 0
  bypassed : UInt64 := 0
  noDecisions : UInt64 := 0
  fetchFailures : UInt64 := 0
  evaluationFailures : UInt64 := 0
  rejected : UInt64 := 0
deriving DecidableEq, Repr

/-- The number of lookups that ended in candidates. -/
def Counts.answered (c : Counts) : Nat :=
  c.resolutions.toNat - c.noDecisions.toNat - c.fetchFailures.toNat

/-! ### Counters -/

/-- The integer that a double holds when it is given `n`: the nearest with 53 significant binary
digits, the even one of two. -/
def nearestDouble (n : Nat) : Nat :=
  let unit := Nat.pow 2 (n.log2 + 1 - 53)
  let low := n / unit
  let rest := n % unit
  if unit < 2 * rest ∨ (2 * rest = unit ∧ low % 2 = 1) then (low + 1) * unit else low * unit

def plus (counter amount : Nat) : Nat := nearestDouble (counter + nearestDouble amount)

structure Counters where
  resolutions : Nat := 0
  bypassed : Nat := 0
  noDecisions : Nat := 0
  fetchFailures : Nat := 0
  evaluationFailures : Nat := 0
  rejected : Nat := 0
deriving DecidableEq, Repr

/-! ### Durations -/

/-- The upper bounds of the classes of durations, in seconds, as they are written. -/
def bounds : List (String × Float) :=
  [("0.001", 0.001), ("0.005", 0.005), ("0.01", 0.01), ("0.05", 0.05), ("0.1", 0.1), ("0.5", 0.5),
    ("1", 1.0), ("5", 5.0), ("10", 10.0)]

/-- How long evaluations took: for each class the number of those up to its bound, and of all of
them the sum in seconds and the number. -/
structure Durations where
  upTo : List Nat := bounds.map fun _ => 0
  sum : Float := 0.0
  count : Nat := 0

def secondsOf (s : Span) : Float :=
  Float.ofNat s.seconds + Float.ofNat s.subsecond / 1000000000.0

def Durations.add (d : Durations) (s : Span) : Durations :=
  let seconds := secondsOf s
  { upTo := (d.upTo.zip bounds).map fun (n, _, bound) => if seconds ≤ bound then n + 1 else n
    sum := d.sum + seconds
    count := d.count + 1 }

end AutoProxy.Tally

namespace AutoProxy

structure Tally where
  counts : Tally.Counts := {}
  counters : Tally.Counters := {}
  durations : Tally.Durations := {}

namespace Tally

/-! ### Events -/

/-- A lookup has begun. -/
def resolution (t : Tally) : Tally :=
  { t with
    counts := { t.counts with resolutions := t.counts.resolutions + 1 }
    counters := { t.counters with resolutions := plus t.counters.resolutions 1 } }

def noDecision (t : Tally) : Tally :=
  { t with
    counts := { t.counts with noDecisions := t.counts.noDecisions + 1 }
    counters := { t.counters with noDecisions := plus t.counters.noDecisions 1 } }

/-- A request has not been put to the script, and so has no decision. -/
def bypass (t : Tally) : Tally :=
  noDecision { t with
    counts := { t.counts with bypassed := t.counts.bypassed + 1 }
    counters := { t.counters with bypassed := plus t.counters.bypassed 1 } }

def fetchFailure (t : Tally) : Tally :=
  { t with
    counts := { t.counts with fetchFailures := t.counts.fetchFailures + 1 }
    counters := { t.counters with fetchFailures := plus t.counters.fetchFailures 1 } }

def evaluationFailure (t : Tally) : Tally :=
  noDecision { t with
    counts := { t.counts with evaluationFailures := t.counts.evaluationFailures + 1 }
    counters := { t.counters with evaluationFailures := plus t.counters.evaluationFailures 1 } }

/-- So many segments of an answer were set aside. -/
def rejected (t : Tally) (count : Nat) : Tally :=
  if count = 0 then t
  else { t with
    counts := { t.counts with rejected := t.counts.rejected + UInt64.ofNat count }
    counters := { t.counters with rejected := plus t.counters.rejected count } }

/-- An evaluation took so long. -/
def observe (t : Tally) (s : Span) : Tally := { t with durations := t.durations.add s }

end Tally

end AutoProxy

/-! ## The exported text -/

namespace AutoProxy.Tally

/-- The lines that introduce a counter. -/
def heading (name help kind : String) : String :=
  "# HELP " ++ name ++ " " ++ help ++ "\n# TYPE " ++ name ++ " " ++ kind ++ "\n"

def sample (name value : String) : String := name ++ " " ++ value ++ "\n"

def counterText (value : Nat) : String := Number.plainText (Number.ofInt value)

def counter (name help : String) (value : Nat) : String :=
  heading name help "counter" ++ sample name (counterText value)

def durationName : String := "pac_evaluation_duration_seconds"

/-- The durations with their introduction: the number up to each bound, the sum and the number of
all. -/
def Durations.exposition (d : Durations) : String :=
  let bucket (bound : String) (count : Nat) : String :=
    sample (durationName ++ "_bucket\x7ble=\"" ++ bound ++ "\"\x7d") (toString count)
  heading durationName "Time spent evaluating FindProxyForURL" "histogram" ++
    String.join ((bounds.zip d.upTo).map fun ((bound, _), count) => bucket bound count) ++
    bucket "+Inf" d.count ++
    sample (durationName ++ "_sum") (Number.plainText d.sum) ++
    sample (durationName ++ "_count") (toString d.count)

def exposition (t : Tally) : String :=
  counter "pac_bypassed_total" "Lookups answered without evaluating the script"
      t.counters.bypassed ++
    t.durations.exposition ++
    counter "pac_evaluation_failures_total" "Script evaluations that failed or timed out"
      t.counters.evaluationFailures ++
    counter "pac_fetch_failures_total" "Failed attempts to read or download the PAC script"
      t.counters.fetchFailures ++
    counter "pac_no_decision_total" "Lookups that ended without a PAC-driven answer"
      t.counters.noDecisions ++
    counter "pac_rejected_candidates_total" "Malformed proxy specs dropped from script answers"
      t.counters.rejected ++
    counter "pac_resolutions_total" "Total proxy lookups handled by the resolver"
      t.counters.resolutions

end AutoProxy.Tally
