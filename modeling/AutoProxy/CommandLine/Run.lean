import AutoProxy.CommandLine.Help
import AutoProxy.CommandLine.Lookups

/-!
A run of the command, from its arguments to its end. The settings are those of the file, if there
is one, and else those of the environment; what the command line gives takes the place of either.
Then follow the lookups, and in the end the counters if they are asked for. A run in which a lookup
failed is a failure, but only after all lookups.
-/

namespace AutoProxy.CommandLine

open Lookups (logged)

/-- What a run has come to before its lookups. -/
inductive Start where
  /-- The settings were only to be checked. -/
  | checked
  | ready (lookups : Lookups Script.Engine)

/-! ### Settings -/

/-- The log lines on what the command line gives in place of settings. -/
def overrideLines (o : Settings.Overrides) : List String :=
  (o.script.map fun s => "CLI override: script source set to " ++ s).toList ++
    (o.ownAddress.map fun a => "CLI override: local IP forced to " ++ a.toText).toList ++
    (o.timeoutSeconds.map fun t =>
      "CLI override: evaluation timeout set to " ++ toString t.toNat ++ "s").toList

/-- Whether there is a file at a path, when it has been read with this result. -/
def isPresent : Except FileFault (List UInt8) → Bool
  | .ok _ => true
  | .error fault => !fault.isAbsent

/-- Lines of the level of information. -/
def infos (threshold : Threshold) (messages : List String) : List Event :=
  logged threshold (messages.map fun m => ⟨.info, m⟩)

/-- The settings of the file or of the environment, and what is logged while they are loaded. -/
def loadSettings (path : String) (content : Except FileFault (List UInt8))
    (env : Settings.Environment) : List String × Except Settings.LoadFault Settings :=
  if isPresent content then
    let result := Settings.ofFile path content
    let loaded := match result with
      | .ok _ => ["Configuration loaded and validated successfully"]
      | .error _ => []
    (("Loading configuration from: " ++ path) :: loaded, result)
  else ([], Settings.ofEnvironment env)

/-- The settings of a run, with the threshold of its log, and the events until they are known. -/
def settingsOf (site : Site) (o : Options) :
    List Event × Except Fault (Settings × Threshold) :=
  let content := site.outside.read (Path.ofText o.path)
  let first := Threshold.ofText (o.level?.getD "info")
  match loadSettings o.path content site.environment with
  | (lines, .error fault) => (infos first lines, .error (.load fault))
  | (lines, .ok s) =>
    let s := o.apply s
    let events := infos first (lines ++ overrideLines o.overrides)
    match s.check with
    | .error fault => (events, .error (.settings fault))
    | .ok () =>
      let threshold := Threshold.ofText (o.level?.getD s.logLevel)
      let origin := if isPresent content then "Configuration loaded from " ++ o.path
        else "Config file not found, using environment variables"
      (events ++ infos threshold [origin], .ok (s, threshold))

/-! ### Starting -/

def timeOf (o : Options) : Except Fault (Option Calendar.Instant) :=
  match o.now with
  | none => .ok none
  | some text =>
    match Calendar.Instant.ofText text with
    | .ok t => .ok (some t)
    | .error fault => .error (.badTime text fault)

def lookupsOf (site : Site) (o : Options) (s : Settings) (threshold : Threshold) :
    Except Fault (Lookups Script.Engine) := do
  if o.urls.isEmpty && !o.readsInput then throw .nothingToDo
  let fixedTime ← timeOf o
  let resolver ← (Resolver.ofSettings s site.lookup).mapError .setup
  let watched := s.script.watch && resolver.source.location.path?.isSome
  return { resolver, json := o.json, threshold, fixedTime, watched }

/-- All that comes before the lookups. -/
def start (site : Site) (o : Options) : List Event × Except Fault Start :=
  match settingsOf site o with
  | (events, .error fault) => (events, .error fault)
  | (events, .ok (s, threshold)) =>
    if o.checksOnly then (events ++ infos threshold (settingsSummary s), .ok .checked)
    else (events, (lookupsOf site o s threshold).map .ready)

/-! ### The whole run -/

/-- How a run ends, with the lookups that it made and what was printed and logged on the way. -/
structure Outcome where
  attempts : List Attempt := []
  events : List Event
  result : Except Abort Unit

/-- What is printed in answer to the arguments themselves. -/
def Ending.events : Ending → List Event
  | misuse => []
  | help detailed => [.print (Help.text detailed)]
  | version => [.print Help.version]

def Ending.code : Ending → UInt32
  | misuse => 2
  | help _ | version => 0

def codeOf : Except Abort Unit → UInt32
  | .ok () => 0
  | .error (.fault _) => 1
  | .error .outOfCalendar => 101

/-- What a run is given to look up: the addresses of the arguments and, if the input is read, its
lines. -/
def itemsOf (o : Options) (input : List UInt8) : List Item :=
  o.urls.map .argument ++ if o.readsInput then (linesOf input).map .line else []

/-- Items with the site of each, when the first of them comes after so many others. -/
def placed (site : Nat → Site) (n : Nat) : List Item → List (Site × Item)
  | [] => []
  | item :: rest => (site n, item) :: placed site (n + 1) rest

def lookUpGiven {E : Type} (evaluator : Evaluator E) (site : Nat → Site) (o : Options)
    (l : Lookups E) (input : List UInt8) : Outcome :=
  let (attempts, result) := l.lookUpAll evaluator (placed site 0 (itemsOf o input))
  let events := attempts.flatMap l.shown
  match result with
  | .error abort => { attempts, events, result := .error abort }
  | .ok l => { attempts, events := events ++ l.closing o.metrics, result := l.verdict }

/-- A run with the given options: where it starts, and where it is when it comes to each item. -/
def runWith (first : Site) (site : Nat → Site) (o : Options) (input : List UInt8) : Outcome :=
  match start first o with
  | (events, .error fault) => { events, result := .error (.fault fault) }
  | (events, .ok .checked) => { events, result := .ok () }
  | (events, .ok (.ready l)) =>
    let outcome := lookUpGiven Script.Engine.evaluator site o l input
    { outcome with events := events ++ outcome.events }

/-- A run with the given arguments, all of it at one site. -/
def run (site : Site) (arguments : List String) (input : List UInt8) : Except Ending Outcome :=
  match Options.ofArguments arguments with
  | .error ending => .error ending
  | .ok o => .ok (runWith site (fun _ => site) o input)

end AutoProxy.CommandLine
