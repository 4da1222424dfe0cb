import AutoProxy.Address
import AutoProxy.Settings.Load

/-!
The arguments of a command. They are read from left to right, and the first one that is no option,
lacks its value or has a bad one makes the command unusable; a demand for help or for the version
ends the reading as well. An option is given at most once.

A long option has its value behind `=` or as the next argument, a short one right behind it or as
the next argument; a next argument that looks like an option is none. Short options without a value
can stand together behind one dash. Behind `--` every argument is an address to look up.
-/

namespace AutoProxy.CommandLine

/-- What a command is told to do. Settings that are not given are `none`. -/
structure Options where
  settingsPath : Option String := none
  script : Option String := none
  ownAddress : Option Address := none
  timeoutSeconds : Option UInt64 := none
  now : Option String := none
  logLevel : Option String := none
  verbose : Bool := false
  json : Bool := false
  metrics : Bool := false
  /-- Whether addresses are read from the input as well. -/
  readsInput : Bool := false
  /-- Whether only the settings are checked. -/
  checksOnly : Bool := false
  urls : List String := []
deriving DecidableEq, Repr

/-- Why there is nothing to do but to answer the arguments themselves. -/
inductive Ending where
  /-- The arguments are none that the command understands. -/
  | misuse
  | help (detailed : Bool)
  | version
deriving DecidableEq, Repr

inductive Valued where
  | settingsPath | script | ownAddress | timeoutSeconds | now | logLevel
deriving DecidableEq, Repr

inductive Switch where
  | verbose | json | metrics | readsInput | checksOnly | help | version
deriving DecidableEq, Repr

inductive Flag where
  | valued (flag : Valued)
  | plain (flag : Switch)
deriving DecidableEq, Repr

def Flag.ofName? : String → Option Flag
  | "config" => some (.valued .settingsPath)
  | "script" => some (.valued .script)
  | "local-ip" => some (.valued .ownAddress)
  | "timeout" => some (.valued .timeoutSeconds)
  | "now" => some (.valued .now)
  | "log-level" => some (.valued .logLevel)
  | "verbose" => some (.plain .verbose)
  | "json" => some (.plain .json)
  | "metrics" => some (.plain .metrics)
  | "stdin" => some (.plain .readsInput)
  | "validate-config" => some (.plain .checksOnly)
  | "help" => some (.plain .help)
  | "version" => some (.plain .version)
  | _ => none

def Flag.ofLetter? : Char → Option Flag
  | 'c' => some (.valued .settingsPath)
  | 's' => some (.valued .script)
  | 'v' => some (.plain .verbose)
  | 'h' => some (.plain .help)
  | 'V' => some (.plain .version)
  | _ => none

namespace Options

/-! ### Single options -/

/-- A text given for an option that was not given before. -/
def once {α : Type} (before : Option α) (value : Option α) : Except Ending (Option α) :=
  match before, value with
  | none, some a => .ok (some a)
  | _, _ => .error .misuse

/-- A switch that was not set before. -/
def switchOnce (before : Bool) : Except Ending Bool := if before then .error .misuse else .ok true

/-- The options with the value of one more. -/
def withValue (o : Options) (flag : Valued) (value : List Char) : Except Ending Options :=
  let text := String.ofList value
  match flag with
  | .settingsPath =>
    (once o.settingsPath (if value.isEmpty then none else some text)).map
      fun p => { o with settingsPath := p }
  | .script => (once o.script (some text)).map fun s => { o with script := s }
  | .ownAddress =>
    (once o.ownAddress (Address.ofChars? value)).map fun a => { o with ownAddress := a }
  | .timeoutSeconds =>
    (once o.timeoutSeconds ((Number.unsigned? Number.wordLimit value).map UInt64.ofNat)).map
      fun t => { o with timeoutSeconds := t }
  | .now => (once o.now (some text)).map fun t => { o with now := t }
  | .logLevel => (once o.logLevel (some text)).map fun l => { o with logLevel := l }

/-- The options with one more switch, given by its letter or by its name. -/
def withSwitch (o : Options) (named : Bool) (flag : Switch) : Except Ending Options :=
  match flag with
  | .verbose => (switchOnce o.verbose).map fun b => { o with verbose := b }
  | .json => (switchOnce o.json).map fun b => { o with json := b }
  | .metrics => (switchOnce o.metrics).map fun b => { o with metrics := b }
  | .readsInput => (switchOnce o.readsInput).map fun b => { o with readsInput := b }
  | .checksOnly => (switchOnce o.checksOnly).map fun b => { o with checksOnly := b }
  | .help => .error (.help named)
  | .version => .error .version

def withUrl (o : Options) (url : String) : Options := { o with urls := o.urls ++ [url] }

/-! ### Arguments -/

/-- Whether an argument looks like an option, so that it is no value of the one before it. -/
def looksLikeFlag : List Char → Bool
  | '-' :: _ :: _ => true
  | _ => false

/-- What an argument comes to: the options with it, or an option that awaits its value. -/
inductive Step where
  | done (options : Options)
  | awaiting (options : Options) (flag : Valued)

/-- Reads an argument behind its two dashes. -/
def readName (o : Options) (cs : List Char) : Except Ending Step :=
  let (name, value) : List Char × Option (List Char) :=
    match Text.cut (· == '=') cs with
    | some (name, value) => (name, some value)
    | none => (cs, none)
  match Flag.ofName? (String.ofList name), value with
  | some (.valued flag), some value => (o.withValue flag value).map .done
  | some (.valued flag), none => .ok (.awaiting o flag)
  | some (.plain flag), none => (o.withSwitch true flag).map .done
  | some (.plain _), some _ => .error .misuse
  | none, _ => .error .misuse

/-- Reads an argument behind its single dash. -/
def readLetters (o : Options) : List Char → Except Ending Step
  | [] => .ok (.done o)
  | c :: rest =>
    match Flag.ofLetter? c with
    | some (.valued flag) =>
      match rest with
      | [] => .ok (.awaiting o flag)
      | '=' :: value => (o.withValue flag value).map .done
      | value => (o.withValue flag value).map .done
    | some (.plain flag) =>
      match o.withSwitch false flag with
      | .ok o => o.readLetters rest
      | .error ending => .error ending
    | none => .error .misuse

/-- Reads an argument that is not the value of the one before it. -/
def readArgument (o : Options) (argument : String) : Except Ending Step :=
  match argument.toList with
  | '-' :: '-' :: name => o.readName name
  | '-' :: c :: letters => o.readLetters (c :: letters)
  | _ => .ok (.done (o.withUrl argument))

def readFrom (o : Options) : List String → Except Ending Options
  | [] => .ok o
  | "--" :: rest => .ok (rest.foldl withUrl o)
  | argument :: rest =>
    match o.readArgument argument with
    | .error ending => .error ending
    | .ok (.done o) => o.readFrom rest
    | .ok (.awaiting o flag) =>
      match rest with
      | [] => .error .misuse
      | value :: rest =>
        if looksLikeFlag value.toList then .error .misuse
        else
          match o.withValue flag value.toList with
          | .error ending => .error ending
          | .ok o => o.readFrom rest

def ofArguments (arguments : List String) : Except Ending Options := ({} : Options).readFrom arguments

/-! ### Use -/

def path (o : Options) : String := o.settingsPath.getD "pacresolver.toml"

/-- The settings that the command line gives in place of others. -/
def overrides (o : Options) : Settings.Overrides :=
  { script := o.script, ownAddress := o.ownAddress, timeoutSeconds := o.timeoutSeconds }

def level? (o : Options) : Option String := if o.verbose then some "debug" else o.logLevel

def apply (o : Options) (s : Settings) : Settings :=
  let s := s.override o.overrides
  { s with logLevel := o.logLevel.getD s.logLevel }

end Options

end AutoProxy.CommandLine
