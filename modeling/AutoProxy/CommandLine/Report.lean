import AutoProxy.Calendar.Timestamp
import AutoProxy.Number.Whole
import AutoProxy.Resolver
import AutoProxy.Settings.Basic
import AutoProxy.Settings.Load

/-!
What a command tells of its course besides its answers. Why it fails is reported as the failure itself
and, below it, its causes, numbered where there are several. The log has lines of several levels, of
which those are written that reach a threshold.
-/

namespace AutoProxy.CommandLine

/-! ## Faults -/

inductive Fault where
  | load (fault : Settings.LoadFault)
  /-- The settings cannot be used with what the command line gives. -/
  | settings (fault : Settings.SectionFault)
  | nothingToDo
  | badTime (text : String) (fault : Calendar.TimestampError)
  | setup (fault : ResolutionFault)
  /-- The input is no text. -/
  | badInput
  | lookups (failed attempted : Nat)
deriving DecidableEq, Repr

namespace Fault

/-- The fault from the outside in. -/
def chain : Fault → List String
  | load fault => fault.chain
  | settings fault => "Final configuration validation failed" :: fault.chain
  | nothingToDo => ["no URLs given; pass URLs as arguments or use --stdin"]
  | badTime text fault => ["Invalid --now timestamp: " ++ text, fault.message]
  | setup fault => ["Failed to set up PAC resolver", fault.message]
  | badInput => ["stream did not contain valid UTF-8"]
  | lookups failed attempted =>
    [toString failed ++ " of " ++ toString attempted ++ " lookups failed"]

/-- A text whose lines after the first are set in by a margin. -/
def indented (margin s : String) : String :=
  ("\n" ++ margin).intercalate ((Text.split '\n' s.toList).map String.ofList)

/-- The lines of several causes, each with its number in five columns. -/
def numbered (n : Nat) : List String → List String
  | [] => []
  | cause :: rest =>
    let digits := toString n
    let column := String.ofList (List.replicate (5 - digits.length) ' ') ++ digits
    ("\n" ++ column ++ ": " ++ indented "       " cause) :: numbered (n + 1) rest

def reportOf : List String → String
  | [] => "Error: "
  | [failure] => "Error: " ++ failure
  | [failure, cause] => "Error: " ++ failure ++ "\n\nCaused by:\n    " ++ indented "    " cause
  | failure :: causes => "Error: " ++ failure ++ "\n\nCaused by:" ++ String.join (numbered 0 causes)

def report (f : Fault) : String := reportOf f.chain

end Fault

/-! ## The log -/

/-- The level of a line, the least important first. -/
inductive Level where
  | trace | debug | info | warn | error
deriving DecidableEq, Repr

namespace Level

def all : List Level := [trace, debug, info, warn, error]

def word : Level → String
  | trace => "TRACE"
  | debug => "DEBUG"
  | info => "INFO"
  | warn => "WARN"
  | error => "ERROR"

/-- The number of a level, one for the most important. -/
def rank : Level → Nat
  | error => 1
  | warn => 2
  | info => 3
  | debug => 4
  | trace => 5

end Level

structure LogLine where
  level : Level
  message : String
deriving DecidableEq, Repr

def LogLine.toText (l : LogLine) : String := l.level.word ++ " " ++ l.message

/-- Which lines are written: those of the given rank and of lower ones. -/
structure Threshold where
  rank : Nat
deriving DecidableEq, Repr

namespace Threshold

/-- The threshold that a text names: a level in any case of its letters or its rank, or none at
all. A text that names nothing lets no line pass. -/
def ofText (s : String) : Threshold :=
  if s.isEmpty then ⟨Level.error.rank⟩
  else
    match Level.all.find? fun l => Text.sameWord l.word s with
    | some l => ⟨l.rank⟩
    | none => ⟨(Number.unsigned? 6 s.toList).getD 0⟩

def admits (t : Threshold) (l : LogLine) : Bool := l.level.rank ≤ t.rank

end Threshold

def settingsSummary (s : Settings) : List String :=
  let policy := match s.bypass with
    | .scriptText => "ScriptText"
    | .sourceHost => "SourceHost"
  let ttl := match s.script.fallbackTtl with
    | some ttl => "Some(" ++ ttl.decimalText ++ ")"
    | none => "None"
  ["✅ Configuration is valid", "Configuration summary:",
    "  Script source: " ++ s.script.source.getD "<none>",
    "  Fetch timeouts: connect " ++ s.script.connectTimeout.decimalText ++ ", read " ++
      s.script.readTimeout.decimalText,
    "  Fallback TTL: " ++ ttl,
    "  Watch script: " ++ (if s.script.watch then "enabled" else "disabled"),
    "  Evaluation timeout: " ++ s.limits.timeout.decimalText,
    "  Bypass policy: " ++ policy] ++
    (s.ownAddress.map fun a => "  Local IP override: " ++ a.toText).toList

end AutoProxy.CommandLine
