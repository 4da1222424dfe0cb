import AutoProxy.Settings.Basic
import AutoProxy.Web.Download
import AutoProxy.Files
import AutoProxy.Location

/-!
The source of a script: where it is kept, and the text that was read there last. A text is used until
it expires; then the source is read again, and if that fails the old text stays where it is. Text
that has been set aside is read again when it is next asked for.

Reading a source is an acquisition. Acquisitions are counted, whether or not they succeed.
-/

namespace AutoProxy

open Calendar

/-- What lies outside of a source: the files of the machine and the servers of the web. -/
structure Outside where
  read : Path → Except FileFault (List UInt8)
  transport : Web.Transport

inductive FetchFault where
  | file (path : Path) (fault : FileFault)
  | web (url : Url) (fault : Web.WebFault)
deriving DecidableEq, Repr

def FetchFault.message : FetchFault → String
  | file path fault => "failed to fetch PAC script from " ++ path.toText ++ ": " ++ fault.message
  | web url fault => "failed to fetch PAC script from " ++ url.toText ++ ": " ++ fault.message

inductive LoadFault where
  | fetch (fault : FetchFault)
  /-- The script would expire at an instant outside the calendar. -/
  | outOfCalendar
deriving DecidableEq, Repr

/-- A script that is kept: its text, when it was read and when it expires, if it does. -/
structure CacheEntry where
  content : String
  fetchedAt : Instant
  expiresAt : Option Instant
deriving DecidableEq, Repr

def CacheEntry.isFresh (e : CacheEntry) (now : Instant) : Bool :=
  !Web.Expiry.hasPassed e.expiresAt now

structure Source where
  location : Location
  /-- How long a script is kept when nothing is said of its expiry. -/
  fallbackTtl : Option Span := none
  entry : Option CacheEntry := none
  fetches : Nat := 0
deriving DecidableEq, Repr

namespace Source

/-- A source with a text of its own. -/
def ofScript (script : String) : Source := { location := .inline script }

/-- The source at a location, as the settings of the script say. -/
def ofLocation (location : Location) (s : ScriptSettings) : Source :=
  { location, fallbackTtl := s.fallbackTtl }

/-! ### Acquisition -/

/-- The text of a file: what is malformed is replaced, and line ends are of one kind. -/
def fileText (bytes : List UInt8) : String :=
  Text.normalizeLines (String.ofList (Text.Utf8.decodeLossy bytes))

def fetch (outside : Outside) (location : Location) (now : Instant) :
    Except FetchFault Web.Download :=
  match location with
  | .file path =>
    match outside.read path with
    | .ok bytes => .ok ⟨fileText bytes, .never⟩
    | .error fault => .error (.file path fault)
  | .remote url =>
    match Web.download outside.transport url now with
    | .ok download => .ok download
    | .error fault => .error (.web url fault)
  | .inline script => .ok ⟨script, .never⟩

/-- A length of time as one that instants can be moved by, if it is not too long for that. -/
def delta? (s : Span) : Option Delta :=
  let longest := 9223372036854775807 * 1000000
  if s.nanos ≤ longest then some ⟨s.seconds, s.subsecond⟩ else none

/-- When a script expires that is read now: as announced, or else after the time that the source
keeps scripts. It is outside the calendar for no instant at all. -/
def expiryOf (s : Source) (announced : Web.Expiry.Announced) (now : Instant) :
    Except LoadFault (Option Instant) :=
  match announced with
  | .on at_ => .ok (some at_)
  | .outOfCalendar => .error .outOfCalendar
  | .never =>
    match s.fallbackTtl.bind delta? with
    | none => .ok none
    | some ttl =>
      match now.add? ttl with
      | some at_ => .ok (some at_)
      | none => .error .outOfCalendar

/-- The entry for what is at the location now. -/
def acquire (s : Source) (outside : Outside) (now : Instant) : Except LoadFault CacheEntry :=
  match fetch outside s.location now with
  | .error fault => .error (.fetch fault)
  | .ok download =>
    match s.expiryOf download.expiry now with
    | .error fault => .error fault
    | .ok expiresAt => .ok ⟨download.content, now, expiresAt⟩

/-! ### Use -/

def freshContent (s : Source) (now : Instant) : Option String :=
  (s.entry.filter fun e => e.isFresh now).map CacheEntry.content

/-- The script at the time that a clock shows, and the source afterwards. -/
def load (s : Source) (outside : Outside) (clock : Instant) : Except LoadFault String × Source :=
  let now := clock.toUtc
  match s.freshContent now with
  | some content => (.ok content, s)
  | none =>
    let s := { s with fetches := s.fetches + 1 }
    match s.acquire outside now with
    | .ok entry => (.ok entry.content, { s with entry := some entry })
    | .error fault => (.error fault, s)

/-- The text that is kept, whether or not it has expired. -/
def cached (s : Source) : Option String := s.entry.map CacheEntry.content

/-- Whether the file of the script still has the text that is kept. -/
def isCurrent (s : Source) (outside : Outside) : Bool :=
  match s.location, s.entry with
  | .file path, some entry =>
    match outside.read path with
    | .ok bytes => fileText bytes == entry.content
    | .error _ => false
  | _, _ => true

def invalidate (s : Source) : Source := { s with entry := none }

end Source

end AutoProxy
