import AutoProxy.Script.Token
import AutoProxy.Script.Tree

/-!
The values of the script language, and the machine that holds what can change: scopes with the
variables in them and objects with their members. Scopes and objects are referred to by their place
in the machine, and none is ever removed.

A name belongs to the innermost scope that knows it; until its declaration has been reached it has no
value there.
-/

namespace AutoProxy.Script

inductive ErrorKind where
  | general
  | type
  | range
  | reference
  | grammar
  | evaluation
  | address
deriving DecidableEq, Repr

def ErrorKind.name : ErrorKind → String
  | general => "Error"
  | type => "TypeError"
  | range => "RangeError"
  | reference => "ReferenceError"
  | grammar => "SyntaxError"
  | evaluation => "EvalError"
  | address => "URIError"

/-- The kinds of errors that have a name of their own in a script. -/
def ErrorKind.all : List ErrorKind :=
  [.general, .type, .range, .reference, .grammar, .evaluation, .address]

/-- The functions that scripts use to ask about a request; each has a name of its own. -/
inductive Question where
  | isPlainHostName
  | dnsDomainIs
  | localHostOrDomainIs
  | isResolvable
  | isResolvableEx
  | isInNet
  | isInNetEx
  | dnsResolve
  | dnsResolveEx
  | myIpAddress
  | myIpAddressEx
  | dnsDomainLevels
  | shExpMatch
  | weekdayRange
  | dateRange
  | timeRange
  | sortIpAddressList
  | getClientVersion
  | alert
deriving DecidableEq, Repr

/-- Functions that are there before a script defines any. -/
inductive Native where
  | question (q : Question)
  | makeError (kind : ErrorKind)
  | charAt
  | indexOf
  | substring
  | toUpperCase
  | toLowerCase
  | join
  | toText
  | itself
deriving DecidableEq, Repr

inductive Value where
  | undefined
  | null
  | boolean (value : Bool)
  | number (value : Float)
  | text (units : List UInt16)
  | native (function : Native)
  | object (place : Nat)

instance : Inhabited Value := ⟨.undefined⟩

def Value.ofString (s : String) : Value := .text (Text.Utf16.ofString s)

/-- What an object is. -/
inductive Nature where
  | plain
  | list
  | arguments
  | closure (code : Code) (scope : Nat)
  | error (kind : ErrorKind)

/-- An object: its numbered elements, if it is a list, and its named members. -/
structure Entity where
  nature : Nature
  elements : Array Value := #[]
  members : List (String × Value) := []

inductive Change where
  | free
  /-- An assignment is an error. -/
  | refused
  /-- An assignment does nothing. -/
  | ignored
deriving DecidableEq, Repr

/-- A variable; it has no value before its declaration has been reached. -/
structure Variable where
  value : Option Value
  change : Change := .free

/-- Variables, and the scope around them. -/
structure Scope where
  entries : List (String × Variable)
  parent : Option Nat

/-- What an evaluation changes: scopes, objects, the number of calls that have begun and not ended,
the number of turns of loops within the innermost call, and the work done. -/
structure Machine where
  scopes : Array Scope
  objects : Array Entity
  depth : Nat := 0
  turns : Nat := 0
  work : Nat := 0

/-- The scope of the variables that belong to the whole script. -/
def Machine.outermost : Nat := 0

/-- The scope of what a script declares with `let` and `const` outside of all functions. -/
def Machine.top : Nat := 1

/-- Why an evaluation stops without the script having a say in it. -/
inductive Halt where
  | tooManyTurns
  | tooManyCalls
  | outOfTime
  /-- The evaluation has broken down. -/
  | collapsed
deriving DecidableEq, Repr

/-- What ends an evaluation early: a value that has been thrown, or a halt. -/
inductive Stop where
  | thrown (value : Value)
  | halted (why : Halt)

/-- A step of an evaluation: it changes the machine and ends with a value or early. -/
abbrev Run := EStateM Stop Machine

namespace Machine

/-! ### Variables -/

/-- The variables with one of them replaced; unchanged if there is none of that name. -/
def replaced (name : String) (v : Variable) : List (String × Variable) → List (String × Variable)
  | [] => []
  | (n, old) :: rest => if n = name then (n, v) :: rest else (n, old) :: replaced name v rest

/-- The variables with one of them replaced or added. -/
def placed (name : String) (v : Variable) (entries : List (String × Variable)) :
    List (String × Variable) :=
  if (entries.lookup name).isSome then replaced name v entries else (name, v) :: entries

/-- The scope, from the given one outward, that has a variable of the name, and that variable. The
fuel bounds the number of scopes that are looked at. -/
def find? (m : Machine) (name : String) (scope : Nat) : Nat → Option (Nat × Variable)
  | 0 => none
  | fuel + 1 =>
    match m.scopes[scope]? with
    | none => none
    | some s =>
      match s.entries.lookup name with
      | some v => some (scope, v)
      | none =>
        match s.parent with
        | some parent => m.find? name parent fuel
        | none => none

/-- The scope that has the variable which a name means in the given scope, and that variable. -/
def holder? (m : Machine) (name : String) (scope : Nat) : Option (Nat × Variable) :=
  m.find? name scope m.scopes.size

/-- The machine with a variable of a scope replaced or added. -/
def place (m : Machine) (scope : Nat) (name : String) (v : Variable) : Machine :=
  { m with scopes := m.scopes.modify scope fun s => { s with entries := placed name v s.entries } }

end Machine

/-! ### Steps -/

namespace Run

def newScope (parent : Nat) (entries : List (String × Variable)) : Run Nat :=
  modifyGet fun m => (m.scopes.size, { m with scopes := m.scopes.push ⟨entries, some parent⟩ })

def newObject (e : Entity) : Run Value :=
  modifyGet fun m => (.object m.objects.size, { m with objects := m.objects.push e })

def newList (elements : List Value) : Run Value :=
  newObject { nature := .list, elements := elements.toArray }

def newError (kind : ErrorKind) (message : Option (List UInt16)) : Run Value :=
  newObject {
    nature := .error kind
    members := match message with
      | some units => [("message", .text units)]
      | none => [] }

def fail {α : Type} (kind : ErrorKind) (message : String) : Run α := do
  throw (.thrown (← newError kind (some (Text.Utf16.ofString message))))

def setVariable (scope : Nat) (name : String) (v : Variable) : Run Unit :=
  modify (·.place scope name v)

def entity (place : Nat) : Run Entity := do
  return ((← get).objects[place]?).getD { nature := .plain }

def modifyEntity (place : Nat) (f : Entity → Entity) : Run Unit :=
  modify fun m => { m with objects := m.objects.modify place f }

end Run

/-! ### Simple conversions -/

namespace Value

def simpleType : Value → String
  | undefined => "undefined"
  | null => "object"
  | boolean _ => "boolean"
  | number _ => "number"
  | text _ => "string"
  | native _ => "function"
  | object _ => "object"

def typeName (m : Machine) : Value → String
  | object place =>
    match m.objects[place]? with
    | some ⟨.closure .., _, _⟩ => "function"
    | _ => "object"
  | v => v.simpleType

def isTrue : Value → Bool
  | undefined | null => false
  | boolean b => b
  | number x => !(x == 0.0 || x != x)
  | text units => !units.isEmpty
  | native _ | object _ => true

def simpleText : Value → List UInt16
  | undefined => Text.Utf16.ofString "undefined"
  | null => Text.Utf16.ofString "null"
  | boolean b => Text.Utf16.ofString (if b then "true" else "false")
  | number x => Text.Utf16.ofString (Numeral.toText x)
  | text units => units
  | native _ | object _ => []

def simpleNumber : Value → Float
  | undefined => Numeral.nan
  | null => 0.0
  | boolean b => if b then 1.0 else 0.0
  | number x => x
  | text units => Numeral.ofText (Text.Utf16.decodeLossy units)
  | native _ | object _ => Numeral.nan

def same : Value → Value → Bool
  | undefined, undefined => true
  | null, null => true
  | boolean a, boolean b => a == b
  | number x, number y => x == y
  | text a, text b => a == b
  | native f, native g => f == g
  | object a, object b => a == b
  | _, _ => false

/-- Whether two values that are not objects are equal when numbers, truth values and texts are
compared as numbers. -/
def equal (a b : Value) : Bool :=
  match a, b with
  | undefined, null | null, undefined => true
  | undefined, _ | null, _ | _, undefined | _, null => a.same b
  | text _, text _ => a.same b
  | native _, _ | _, native _ | object _, _ | _, object _ => a.same b
  | _, _ => a.simpleNumber == b.simpleNumber

/-- Whether a list of units comes before another in the order of their units. -/
def unitsBefore : List UInt16 → List UInt16 → Bool
  | _, [] => false
  | [], _ :: _ => true
  | u :: us, v :: vs => u < v || (u == v && unitsBefore us vs)

/-- Whether a value that is not an object is less than another: texts by their units, all else as
numbers. -/
def less (a b : Value) : Bool :=
  match a, b with
  | text us, text vs => unitsBefore us vs
  | _, _ => a.simpleNumber < b.simpleNumber

def atMost (a b : Value) : Bool :=
  match a, b with
  | text us, text vs => !unitsBefore vs us
  | _, _ => a.simpleNumber ≤ b.simpleNumber

def combined (operator : Operator) (a b : Value) : Value :=
  match operator with
  | .add =>
    match a, b with
    | text us, _ => .text (us ++ b.simpleText)
    | _, text vs => .text (a.simpleText ++ vs)
    | _, _ => .number (a.simpleNumber + b.simpleNumber)
  | .subtract => .number (a.simpleNumber - b.simpleNumber)
  | .multiply => .number (a.simpleNumber * b.simpleNumber)
  | .divide => .number (a.simpleNumber / b.simpleNumber)
  | .remainder => .number (Number.remainder a.simpleNumber b.simpleNumber)
  | .equal => .boolean (a.equal b)
  | .notEqual => .boolean !(a.equal b)
  | .same => .boolean (a.same b)
  | .notSame => .boolean !(a.same b)
  | .less => .boolean (a.less b)
  | .greater => .boolean (b.less a)
  | .atMost => .boolean (a.atMost b)
  | .atLeast => .boolean (b.atMost a)

end Value

/-! ## Names -/

/-! ### Use -/

/-- The value of a name; a name without one is an error. -/
def valueOf (scope : Nat) (name : String) : Run Value := do
  match (← get).holder? name scope with
  | some (_, ⟨some v, _⟩) => return v
  | _ => Run.fail .reference (name ++ " is not defined")

/-- Gives a name a value. A name that means nothing becomes a variable of the whole script. -/
def assignName (scope : Nat) (name : String) (v : Value) : Run Unit := do
  match (← get).holder? name scope with
  | none => Run.setVariable Machine.outermost name { value := some v }
  | some (_, ⟨none, _⟩) => Run.fail .reference (name ++ " is not defined")
  | some (at_, ⟨some _, .free⟩) => Run.setVariable at_ name { value := some v }
  | some (_, ⟨some _, .refused⟩) => Run.fail .type ("cannot assign to constant " ++ name)
  | some (_, ⟨some _, .ignored⟩) => return ()

/-! ### Declaration -/

/-- Adds names without values for what a list of statements declares with `let` and `const`. -/
def announce (scope : Nat) : List (Bool × String) → Run Unit
  | [] => return ()
  | (constant, name) :: rest => do
    Run.setVariable scope name { value := none, change := if constant then .refused else .free }
    announce scope rest

/-- Gives a declared name its first value. -/
def settle (scope : Nat) (constant : Bool) (name : String) (v : Value) : Run Unit :=
  Run.setVariable scope name { value := some v, change := if constant then .refused else .free }

/-- Adds variables for names that have none in the scope. -/
def addVariables (scope : Nat) : List String → Run Unit
  | [] => return ()
  | name :: rest => do
    let known := ((← get).scopes[scope]?).any fun s => (s.entries.lookup name).isSome
    if !known then Run.setVariable scope name { value := some .undefined }
    addVariables scope rest

/-- Adds the functions that a list of statements declares; `around` is the scope that they see. -/
def addFunctions (scope around : Nat) : List (String × Code) → Run Unit
  | [] => return ()
  | (name, code) :: rest => do
    let f ← Run.newObject { nature := .closure code around }
    Run.setVariable scope name { value := some f }
    addFunctions scope around rest

def parameterVariables (entries : List (String × Variable)) :
    List String → List Value → List (String × Variable)
  | [], _ => entries
  | p :: ps, vs =>
    parameterVariables (Machine.placed p { value := some (vs.head?.getD .undefined) } entries) ps
      vs.tail

/-- The names that the start of a loop declares for each turn anew. -/
def turnNames : Statement → List String
  | .lexical false declarations => declarations.map Declaration.name
  | _ => []

def copyScope (scope : Nat) : Run Nat :=
  modifyGet fun m =>
    match m.scopes[scope]? with
    | some s => (m.scopes.size, { m with scopes := m.scopes.push s })
    | none => (scope, m)

end AutoProxy.Script
