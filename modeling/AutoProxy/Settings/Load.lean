import AutoProxy.Files
import AutoProxy.Location
import AutoProxy.Settings.Basic
import AutoProxy.Text.Utf8
import AutoProxy.Toml.Reader

/-!
Settings from a file, from the environment and from the command line. A file that exists has the
word; without one the environment is asked. What the command line gives takes the place of
either.

Which settings can be used is checked section by section, each field in its order, and the first fault
counts.
-/

namespace AutoProxy.Settings

/-! ## Checks -/

inductive Section where
  | script
  | limits
  | logging
deriving DecidableEq, Repr

inductive CheckFault where
  | emptySource
  | badSource (fault : LocationFault)
  | zeroTimeout (name : String)
  | longTimeout (name : String)
  | zeroTtl
  | zeroLimit (name : String)
  | unknownLevel
deriving DecidableEq, Repr

def Section.heading : Section → String
  | script => "Script configuration validation failed"
  | limits => "Engine configuration validation failed"
  | logging => "Logging configuration validation failed"

def logLevels : List String := ["trace", "debug", "info", "warn", "error"]

def CheckFault.message : CheckFault → String
  | emptySource => "script.source must not be empty"
  | badSource fault => "invalid configuration: " ++ fault.message
  | zeroTimeout name => name ++ " must be greater than 0"
  | longTimeout name => name ++ " cannot exceed 5 minutes"
  | zeroTtl => "script.fallback_ttl must be greater than 0 when set"
  | zeroLimit name => name ++ " must be greater than 0"
  | unknownLevel => "logging.level must be one of: " ++ ", ".intercalate logLevels

def maxTimeout : Span := Span.ofSeconds 300

/-- A timeout has some length, and five minutes at most. -/
def checkTimeout (name : String) (s : Span) : Except CheckFault Unit :=
  if s.isZero then .error (.zeroTimeout name)
  else if maxTimeout.nanos < s.nanos then .error (.longTimeout name)
  else .ok ()

/-- The source, if one is set, names a location. -/
def checkSource : Option String → Except CheckFault Unit
  | none => .ok ()
  | some source =>
    if Text.isBlankString source then .error .emptySource
    else
      match Location.ofText source with
      | .ok _ => .ok ()
      | .error fault => .error (.badSource fault)

def checkScript (s : ScriptSettings) : Except CheckFault Unit := do
  checkSource s.source
  checkTimeout "script.connect_timeout" s.connectTimeout
  checkTimeout "script.read_timeout" s.readTimeout
  if s.fallbackTtl.any Span.isZero then throw .zeroTtl

def checkLimits (l : Limits) : Except CheckFault Unit := do
  checkTimeout "engine.evaluation_timeout" l.timeout
  if l.loopIterations = 0 then throw (.zeroLimit "engine.loop_iteration_limit")
  if l.recursion = 0 then throw (.zeroLimit "engine.recursion_limit")

/-- The level of the log is one of those known. -/
def checkLevel (level : String) : Except CheckFault Unit :=
  if logLevels.contains level then .ok () else .error .unknownLevel

/-- A fault with the section in which it lies. -/
structure SectionFault where
  part : Section
  fault : CheckFault
deriving DecidableEq, Repr

/-- The fault from the outside in. -/
def SectionFault.chain (f : SectionFault) : List String := [f.part.heading, f.fault.message]

/-- The outcome of a section's check. -/
def within (part : Section) : Except CheckFault Unit → Except SectionFault Unit
  | .ok () => .ok ()
  | .error fault => .error ⟨part, fault⟩

def check (s : Settings) : Except SectionFault Unit := do
  within .script (checkScript s.script)
  within .limits (checkLimits s.limits)
  within .logging (checkLevel s.logLevel)

/-! ## Sources -/

inductive LoadFault where
  | unreadable (path reason : String)
  | unparsable (path : String)
  | badAddress (text : String)
  | badTimeout (text : String) (fault : SpanFault)
  | invalid (fault : SectionFault)
  /-- Settings of a file that cannot be used. -/
  | invalidFile (fault : SectionFault)
deriving DecidableEq, Repr

def LoadFault.chain : LoadFault → List String
  | unreadable path reason => ["Failed to read config file: " ++ path, reason]
  | unparsable path => ["Failed to parse config file: " ++ path, "TOML parse error"]
  | badAddress text => ["Invalid PACRESOLVER_LOCAL_IP: " ++ text, "invalid IP address syntax"]
  | badTimeout text fault => ["Invalid PACRESOLVER_EVALUATION_TIMEOUT: " ++ text, fault.message]
  | invalid fault => fault.chain
  | invalidFile fault => "Configuration validation failed" :: fault.chain

def checked (s : Settings) (fault : SectionFault → LoadFault) : Except LoadFault Settings :=
  match s.check with
  | .ok () => .ok s
  | .error f => .error (fault f)

/-! ### Files -/

def ofFileText (path : String) (text : List Char) : Except LoadFault Settings :=
  match (Toml.document? text).bind ofDocument? with
  | some s => checked s .invalidFile
  | none => .error (.unparsable path)

/-- The settings of a file whose content is given, or the defaults if there is no file. -/
def ofFile (path : String) (content : Except FileFault (List UInt8)) : Except LoadFault Settings :=
  match content with
  | .ok bytes =>
    match Text.Utf8.decode? bytes with
    | some text => ofFileText path text
    | none => .error (.unreadable path "stream did not contain valid UTF-8")
  | .error fault =>
    if fault.isAbsent then checked {} .invalid else .error (.unreadable path fault.message)

/-! ### Environment -/

abbrev Environment := String → Option String

def addressOf (text : String) : Except LoadFault Address :=
  match Address.ofChars? (Text.trim text.toList) with
  | some a => .ok a
  | none => .error (.badAddress text)

def timeoutOf (text : String) : Except LoadFault Span :=
  match Span.ofText text with
  | .ok s => .ok s
  | .error fault => .error (.badTimeout text fault)

/-- The value of a variable as `read` takes it, or the default where it is not set. -/
def fromVariable {α : Type} (env : Environment) (name : String) (default : α)
    (read : String → Except LoadFault α) : Except LoadFault α :=
  match env name with
  | some text => read text
  | none => .ok default

def ofEnvironment (env : Environment) : Except LoadFault Settings := do
  let default : Settings := {}
  let source ← fromVariable env "PACRESOLVER_SCRIPT" default.script.source fun s => .ok (some s)
  let address ← fromVariable env "PACRESOLVER_LOCAL_IP" default.ownAddress fun s =>
    (addressOf s).map some
  let timeout ← fromVariable env "PACRESOLVER_EVALUATION_TIMEOUT" default.limits.timeout timeoutOf
  let level ← fromVariable env "PACRESOLVER_LOG_LEVEL" default.logLevel .ok
  checked
    { default with
      script := { default.script with source := source }
      limits := { default.limits with timeout := timeout }
      ownAddress := address
      logLevel := level } .invalid

/-! ### Command line -/

/-- What the command line gives in place of other settings. -/
structure Overrides where
  script : Option String := none
  ownAddress : Option Address := none
  timeoutSeconds : Option UInt64 := none
deriving DecidableEq, Repr

def override (s : Settings) (o : Overrides) : Settings :=
  { s with
    script := { s.script with source := o.script <|> s.script.source }
    limits := { s.limits with timeout := (o.timeoutSeconds.map Span.ofSeconds).getD s.limits.timeout }
    ownAddress := o.ownAddress <|> s.ownAddress }

end AutoProxy.Settings
