import AutoProxy.Address
import AutoProxy.Number.Whole
import AutoProxy.Span

/-!
The settings of a resolver, with their defaults, and how they are written in a document. Every
section and every field may be left out and then has its default; names that are not known do not
count.

Documents are trees of values with names. Where a value is expected to have named fields, a list gives
them in their fixed order, and may leave out the last ones.
-/

namespace AutoProxy.Settings

/-! ## Documents -/

inductive Document where
  | null
  | bool (value : Bool)
  | integer (value : Int)
  /-- A number that is not an integer, or a date: no setting takes one. -/
  | other
  | text (value : String)
  | list (items : List Document)
  | table (entries : List (String × Document))
deriving Inhabited

namespace Document

/-- The fields that a document gives, by their names; `names` are those expected, in order. -/
def fields? (names : List String) : Document → Option (String → Option Document)
  | table entries => some fun name => entries.lookup name
  | list items =>
    if items.length ≤ names.length then some fun name => (names.zip items).lookup name else none
  | _ => none

/-- The value of a field as `read` takes it, or the default where the field is not given. -/
def field? {α : Type} (fields : String → Option Document) (name : String) (default : α)
    (read : Document → Option α) : Option α :=
  match fields name with
  | some value => read value
  | none => some default

/-! ### Reading single values -/

def text? : Document → Option String
  | text s => some s
  | _ => none

def bool? : Document → Option Bool
  | bool b => some b
  | _ => none

def word? : Document → Option UInt64
  | integer n => if 0 ≤ n ∧ n < Number.wordLimit then some (UInt64.ofNat n.toNat) else none
  | _ => none

def optional {α : Type} (read : Document → Option α) : Document → Option (Option α)
  | null => some none
  | value => (read value).map some

end Document

end AutoProxy.Settings

/-! ## Settings -/

namespace AutoProxy

/-- Which requests are not put to the script. -/
inductive Bypass where
  /-- Requests to the host that serves the script or to one that its text mentions. -/
  | scriptText
  /-- Requests to the host that serves the script. -/
  | sourceHost
deriving DecidableEq, Repr

/-- Where the script comes from and how it is fetched. -/
structure ScriptSettings where
  source : Option String := none
  connectTimeout : Span := Span.ofSeconds 15
  readTimeout : Span := Span.ofSeconds 20
  /-- How long a script is kept whose source does not say. -/
  fallbackTtl : Option Span := none
  watch : Bool := false
deriving DecidableEq, Repr

structure Limits where
  timeout : Span := Span.ofSeconds 10
  loopIterations : UInt64 := 10000000
  recursion : UInt64 := 512
deriving DecidableEq, Repr

structure Settings where
  script : ScriptSettings := {}
  limits : Limits := {}
  /-- The address that scripts see as the machine's own. -/
  ownAddress : Option Address := none
  bypass : Bypass := .scriptText
  logLevel : String := "info"
deriving DecidableEq, Repr

/-! ### Reading -/

namespace Settings

def span? (d : Document) : Option Span := d.text?.bind fun s => (Span.ofText s).toOption

def address? (d : Document) : Option Address := d.text?.bind Address.ofString?

def bypassName : Bypass → String
  | .scriptText => "script-text"
  | .sourceHost => "source-host"

def bypassOfName? (name : String) : Option Bypass :=
  if name = "script-text" then some .scriptText
  else if name = "source-host" then some .sourceHost
  else none

/-- A policy: its name, or a table that holds nothing under its name. -/
def bypass? : Document → Option Bypass
  | .text name => bypassOfName? name
  | .table [(name, .null)] => bypassOfName? name
  | _ => none

def script? (d : Document) : Option ScriptSettings := do
  let given ← d.fields? ["source", "connect_timeout", "read_timeout", "fallback_ttl", "watch"]
  let default : ScriptSettings := {}
  return {
    source := ← Document.field? given "source" default.source (Document.optional Document.text?)
    connectTimeout := ← Document.field? given "connect_timeout" default.connectTimeout span?
    readTimeout := ← Document.field? given "read_timeout" default.readTimeout span?
    fallbackTtl :=
      ← Document.field? given "fallback_ttl" default.fallbackTtl (Document.optional span?)
    watch := ← Document.field? given "watch" default.watch Document.bool? }

def limits? (d : Document) : Option Limits := do
  let given ← d.fields? ["evaluation_timeout", "loop_iteration_limit", "recursion_limit"]
  let default : Limits := {}
  return {
    timeout := ← Document.field? given "evaluation_timeout" default.timeout span?
    loopIterations :=
      ← Document.field? given "loop_iteration_limit" default.loopIterations Document.word?
    recursion := ← Document.field? given "recursion_limit" default.recursion Document.word? }

/-- A section with a single field. -/
def single? {α : Type} (name : String) (default : α) (read : Document → Option α)
    (d : Document) : Option α := do
  let given ← d.fields? [name]
  Document.field? given name default read

def ofDocument? (d : Document) : Option Settings := do
  let given ← d.fields? ["script", "engine", "predicates", "resolver", "logging"]
  let default : Settings := {}
  return {
    script := ← Document.field? given "script" default.script script?
    limits := ← Document.field? given "engine" default.limits limits?
    ownAddress := ← Document.field? given "predicates" default.ownAddress
      (single? "local_ip_override" default.ownAddress (Document.optional address?))
    bypass := ← Document.field? given "resolver" default.bypass
      (single? "bypass" default.bypass bypass?)
    logLevel := ← Document.field? given "logging" default.logLevel
      (single? "level" default.logLevel Document.text?) }

/-! ### Writing -/

/-- A value that may be absent. -/
def orNull {α : Type} (write : α → Document) : Option α → Document
  | some a => write a
  | none => .null

def wordDocument (w : UInt64) : Document := .integer w.toNat

def spanDocument (s : Span) : Document := .text s.toText

def scriptDocument (s : ScriptSettings) : Document :=
  .table [("source", orNull .text s.source), ("connect_timeout", spanDocument s.connectTimeout),
    ("read_timeout", spanDocument s.readTimeout),
    ("fallback_ttl", orNull spanDocument s.fallbackTtl), ("watch", .bool s.watch)]

def limitsDocument (l : Limits) : Document :=
  .table [("evaluation_timeout", spanDocument l.timeout),
    ("loop_iteration_limit", wordDocument l.loopIterations),
    ("recursion_limit", wordDocument l.recursion)]

def toDocument (s : Settings) : Document :=
  .table [("script", scriptDocument s.script), ("engine", limitsDocument s.limits),
    ("predicates", .table [("local_ip_override", orNull (fun a => .text a.toText) s.ownAddress)]),
    ("resolver", .table [("bypass", .text (bypassName s.bypass))]),
    ("logging", .table [("level", .text s.logLevel)])]

end Settings

end AutoProxy
