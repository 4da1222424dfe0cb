import AutoProxy.CommandLine.Run
import Std.Time.DateTime.Timestamp

/-!
The command. Files are read when they are needed, each line of the input is answered before the next
one is read, and what is logged goes to the error stream. No server is asked for anything: of the
web nothing can be reached, and of host names those are known that need no lookup.
-/

namespace AutoProxy.Main

open CommandLine

/-- A fault of the operating system by its number, which may be given as a negative one. -/
def faultOf (number : UInt32) (text : String) : FileFault :=
  match (min number (0 - number)).toNat with
  | 2 => .notFound
  | 20 => .notADirectory
  | 21 => .isDirectory
  | 36 => .nameTooLong
  | n => .other (text ++ " (os error " ++ toString n ++ ")")

/-- The fault that an error of input or output stands for. -/
def faultOfError : IO.Error → FileFault
  | .noFileOrDirectory .. => .notFound
  | .inappropriateType _ number text | .resourceExhausted _ number text
  | .permissionDenied _ number text | .invalidArgument _ number text => faultOf number text
  | .otherError number text => faultOf number text
  | error => .other (toString error)

def readFile (path : Path) : IO (Except FileFault (List UInt8)) := do
  try
    return .ok (← IO.FS.readBinFile path.toText).toList
  catch error =>
    return .error (faultOfError error)

/-- What there is to read, when only the files at these paths matter. -/
def outsideOf (paths : List Path) : IO Outside := do
  let files ← paths.mapM fun path => do return (path, ← readFile path)
  return { read := fun path => (files.lookup path).getD (.error .notFound), transport := fun _ => none }

def readClock : IO Calendar.Instant := do
  let t ← Std.Time.Timestamp.now
  let nanos := t.toNanosecondsSinceUnixEpoch.val
  let start : Calendar.Instant := ⟨.midnight (Calendar.Date.ofDayNumber 0), 0⟩
  return (Calendar.Instant.ofEpoch? (nanos / 1000000000) (nanos % 1000000000).toNat).getD start

def readEnvironment : IO Settings.Environment := do
  let names := ["PACRESOLVER_SCRIPT", "PACRESOLVER_LOCAL_IP", "PACRESOLVER_EVALUATION_TIMEOUT",
    "PACRESOLVER_LOG_LEVEL"]
  let values ← names.mapM fun name => do return (name, ← IO.getEnv name)
  return fun name => (values.lookup name).join

def perform (events : List Event) : IO Unit := do
  let output ← IO.getStdout
  for event in events do
    match event with
    | .print text => output.putStr text
    | .log line => IO.eprintln line.toText
  output.flush

/-- The path of the script that is looked at, if it is kept in a file. -/
def scriptPath (l : Lookups Script.Engine) : List Path := l.resolver.source.location.path?.toList

def siteNow (environment : Settings.Environment) (paths : List Path) : IO Site := do
  let outside ← outsideOf paths
  let clock ← readClock
  return { outside, environment, clock, lookup := Lookup.withoutServer }

def finish (result : Except Abort Unit) : IO UInt32 := do
  match result with
  | .error (.fault fault) => IO.eprintln fault.report
  | _ => pure ()
  return codeOf result

def answerItem (site : List Path → IO Site) (l : Lookups Script.Engine) (item : Item) :
    IO (Except Abort (Lookups Script.Engine)) := do
  match l.lookUpItem Script.Engine.evaluator (← site (scriptPath l)) item with
  | .error abort => return .error abort
  | .ok (attempts, after) =>
    perform (attempts.flatMap l.shown)
    return .ok after

def answerUrls (site : List Path → IO Site) (l : Lookups Script.Engine) :
    List String → IO (Except Abort (Lookups Script.Engine))
  | [] => return .ok l
  | url :: rest => do
    match ← answerItem site l (.argument url) with
    | .error abort => return .error abort
    | .ok l => answerUrls site l rest

/-- Answers the lines of the input, one after the other. -/
partial def answerLines (site : List Path → IO Site) (l : Lookups Script.Engine) :
    IO (Except Abort (Lookups Script.Engine)) := do
  let line ← try (← IO.getStdin).getLine catch _ => return .error (.fault .badInput)
  if line.isEmpty then return .ok l
  match ← answerItem site l (.line line.toUTF8.toList) with
  | .error abort => return .error abort
  | .ok l => answerLines site l

/-- Answers the addresses of the arguments, then those of the input. -/
def answer (site : List Path → IO Site) (o : Options) (l : Lookups Script.Engine) :
    IO (Except Abort Unit) := do
  let result ← match ← answerUrls site l o.urls with
    | .error abort => pure (.error abort)
    | .ok l => if o.readsInput then answerLines site l else pure (.ok l)
  match result with
  | .error abort => return .error abort
  | .ok l =>
    perform (l.closing o.metrics)
    return l.verdict

end AutoProxy.Main

open AutoProxy AutoProxy.CommandLine AutoProxy.Main in
def main (arguments : List String) : IO UInt32 := do
  match Options.ofArguments arguments with
  | .error ending =>
    perform ending.events
    if ending = .misuse then IO.eprintln (Help.text false)
    return ending.code
  | .ok o =>
    let environment ← readEnvironment
    let (events, result) := start (← siteNow environment [Path.ofText o.path]) o
    perform events
    match result with
    | .error fault => finish (.error (.fault fault))
    | .ok .checked => finish (.ok ())
    | .ok (.ready l) => finish (← answer (siteNow environment) o l)
