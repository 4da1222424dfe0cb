import AutoProxy.Predicate.Calendar
import AutoProxy.Predicate.Host
import AutoProxy.Script.Limit

/-!
The predicates as functions of the script language: their names, how many parameters they claim to
have, how they take their arguments, and what they answer.
-/

namespace AutoProxy.Script

/-- What an evaluation finds around it: the predicate library that is active, the clock, and the
lookup of host names. -/
structure Surroundings where
  library : Option Predicate.Library
  clock : Calendar.Instant
  lookup : Lookup

namespace Question

/-- All questions, in the order in which their names are bound. -/
def all : List Question :=
  [isPlainHostName, dnsDomainIs, localHostOrDomainIs, isResolvable, isResolvableEx, isInNet,
    isInNetEx, dnsResolve, dnsResolveEx, myIpAddress, myIpAddressEx, dnsDomainLevels, shExpMatch,
    weekdayRange, dateRange, timeRange, sortIpAddressList, getClientVersion, alert]

/-- The name under which a script asks. -/
def name : Question → String
  | isPlainHostName => "isPlainHostName"
  | dnsDomainIs => "dnsDomainIs"
  | localHostOrDomainIs => "localHostOrDomainIs"
  | isResolvable => "isResolvable"
  | isResolvableEx => "isResolvableEx"
  | isInNet => "isInNet"
  | isInNetEx => "isInNetEx"
  | dnsResolve => "dnsResolve"
  | dnsResolveEx => "dnsResolveEx"
  | myIpAddress => "myIpAddress"
  | myIpAddressEx => "myIpAddressEx"
  | dnsDomainLevels => "dnsDomainLevels"
  | shExpMatch => "shExpMatch"
  | weekdayRange => "weekdayRange"
  | dateRange => "dateRange"
  | timeRange => "timeRange"
  | sortIpAddressList => "sortIpAddressList"
  | getClientVersion => "getClientVersion"
  | alert => "alert"

def parameterCount : Question → Nat
  | isPlainHostName | isResolvable | isResolvableEx | dnsResolve | dnsResolveEx | dnsDomainLevels
  | sortIpAddressList | alert => 1
  | dnsDomainIs | localHostOrDomainIs | isInNetEx | shExpMatch => 2
  | isInNet | weekdayRange => 3
  | dateRange | timeRange => 7
  | myIpAddress | myIpAddressEx | getClientVersion => 0

/-- Whether the arguments are taken as they are, and not as texts. -/
def takesValues : Question → Bool
  | dateRange | timeRange => true
  | _ => false

/-- The largest number that a count of labels is told as. -/
def maxLevels : Nat := 2147483647

/-- Whether a question that takes texts has an answer; it has none if it needs a date that the clock's
zone does not have, or if it has to cut a text inside a character. -/
def hasAnswerToTexts (q : Question) (library : Predicate.Library) (s : Surroundings)
    (arguments : List (Option String)) : Bool :=
  let absent (i : Nat) : Option String := (arguments[i]?).getD none
  match q with
  | shExpMatch => Predicate.shExpScan ((absent 0).getD "") ((absent 1).getD "") != .broken
  | weekdayRange =>
    Predicate.isTold (library.now s.clock) (Predicate.weekdayGmt (absent 1) (absent 2))
  | _ => true

/-- The answer to a question that takes texts; an argument that is left out is absent. -/
def ofTexts (q : Question) (library : Predicate.Library) (s : Surroundings)
    (arguments : List (Option String)) : Value :=
  let absent (i : Nat) : Option String := (arguments[i]?).getD none
  let given (i : Nat) : String := (absent i).getD ""
  match q with
  | isPlainHostName => .boolean (Predicate.isPlainHostName (given 0))
  | dnsDomainIs => .boolean (Predicate.dnsDomainIs (given 0) (given 1))
  | localHostOrDomainIs => .boolean (Predicate.localHostOrDomainIs (given 0) (given 1))
  | isResolvable | isResolvableEx => .boolean (Predicate.isResolvable s.lookup (given 0))
  | isInNet => .boolean (Predicate.isInNet (given 0) (given 1) (given 2))
  | isInNetEx => .boolean (Predicate.isInNetEx (given 0) (given 1))
  | dnsResolve => .ofString (Predicate.dnsResolve s.lookup (given 0))
  | dnsResolveEx => .ofString (Predicate.dnsResolveEx s.lookup (given 0))
  | myIpAddress | myIpAddressEx => .ofString library.myIpAddress
  | dnsDomainLevels =>
    .number (Number.ofInt (min (Predicate.dnsDomainLevels (given 0)) maxLevels : Nat))
  | shExpMatch => .boolean (Predicate.shExpMatch (given 0) (given 1))
  | weekdayRange =>
    .boolean (Predicate.weekdayRange (library.now s.clock) (given 0) (absent 1) (absent 2))
  | sortIpAddressList => .ofString (Predicate.sortIpAddressList (given 0))
  | getClientVersion => .ofString Predicate.clientVersion
  | dateRange | timeRange | alert => .undefined

def argumentOf : Value → Predicate.Argument
  | .number x => .number x
  | .text units => .text (Text.Utf16.toString units)
  | _ => .missing

/-- Whether a question that takes values as they are has an answer or an error. -/
def hasAnswerToValues (q : Question) (library : Predicate.Library) (s : Surroundings)
    (arguments : List Value) : Bool :=
  let given := arguments.map argumentOf
  match q with
  | dateRange =>
    Predicate.isTold (library.now s.clock) (Predicate.DateFields.ofArguments given).gmt
  | timeRange => Predicate.isTold (library.now s.clock) (Predicate.timeGmt given)
  | _ => true

/-- The answer to a question that takes values as they are, or the message of an error. -/
def ofValues (q : Question) (library : Predicate.Library) (s : Surroundings)
    (arguments : List Value) : Except String Value :=
  let given := arguments.map argumentOf
  match q with
  | dateRange => .ok (.boolean (Predicate.dateRange (library.now s.clock) given))
  | timeRange =>
    match Predicate.timeRange (library.now s.clock) given with
    | .ok b => .ok (.boolean b)
    | .error fault => .error (EvaluationFault.heading ++ fault.message)
  | _ => .ok .undefined

end Question

end AutoProxy.Script
