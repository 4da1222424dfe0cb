import AutoProxy.Script.Limit
import AutoProxy.Script.Member
import AutoProxy.Script.Value

/-!
Evaluation of expressions and statements. An expression evaluates to a value and a statement to the
way in which it ends; both may instead stop early, with a value that was thrown or at a limit.

The fuel bounds the depth to which the functions below call each other, where a turn of a loop
counts as one level and so do the elements of a list.
-/

namespace AutoProxy.Script

/-- What an evaluation depends on besides the machine. -/
structure Conditions where
  bounds : Bounds
  surroundings : Surroundings

/-! ### Texts -/

/-- An integer of a number, within the bounds from zero to `limit`. -/
def clamped (limit : Nat) (x : Float) : Nat :=
  match Number.truncate? x with
  | some n => min n.toNat limit
  | none => if x > 0.0 then limit else 0

/-- The place, from the given one on, at which the units of `part` occur; a place is tried as long
as units are left. -/
def findUnits (part : List UInt16) (place : Nat) (units : List UInt16) : Option Nat :=
  if part.isPrefixOf units then some place
  else
    match units with
    | [] => none
    | _ :: rest => findUnits part (place + 1) rest

/-- The units between two places, whichever comes first. -/
def unitsBetween (units : List UInt16) (a b : Nat) : List UInt16 :=
  (units.take (max a b)).drop (min a b)

def joinUnits (separator : List UInt16) : List (List UInt16) → List UInt16
  | [] => []
  | [t] => t
  | t :: rest => t ++ separator ++ joinUnits separator rest

/-- How an error shows: its name and its message, as far as it has them. -/
def errorText (name message : List UInt16) : List UInt16 :=
  if name.isEmpty then message
  else if message.isEmpty then name
  else name ++ Text.Utf16.ofString ": " ++ message

/-! ### Evaluation -/

mutual

def evaluate (w : Conditions) (fuel scope : Nat) (e : Expr) : Run Value :=
  match fuel with
  | 0 => throw (.halted .tooManyCalls)
  | fuel + 1 =>
    match e with
    | .null => return .null
    | .boolean b => return .boolean b
    | .number x => return .number x
    | .text units => return .text units
    | .list items => do Run.newList (← evaluateAll w fuel scope items)
    | .record entries => do
      let object ← Run.newObject { nature := .plain }
      fill w fuel scope object entries
      return object
    | .function code =>
      match code.name with
      | none => Run.newObject { nature := .closure code scope }
      | some name => do
        let own ← Run.newScope scope []
        let f ← Run.newObject { nature := .closure code own }
        Run.setVariable own name { value := some f, change := .ignored }
        return f
    | .get (.name name) => valueOf scope name
    | .get (.member object key) => do
      let (o, k) ← target w fuel scope object key
      memberOf o k
    | .typeOf (.get (.name name)) => do
      match (← get).holder? name scope with
      | none => return .ofString "undefined"
      | some _ => do
        let v ← valueOf scope name
        return .ofString (v.typeName (← get))
    | .typeOf operand => do
      let v ← evaluate w fuel scope operand
      return .ofString (v.typeName (← get))
    | .modified .negation operand => return .boolean !(← evaluate w fuel scope operand).isTrue
    | .modified .nothing operand => do
      let _ ← evaluate w fuel scope operand
      return .undefined
    | .modified .minus operand => do
      let x ← toNumber w fuel (← evaluate w fuel scope operand)
      return .number (-x)
    | .modified .plus operand => do
      let x ← toNumber w fuel (← evaluate w fuel scope operand)
      return .number x
    | .binary operator left right => do
      let a ← evaluate w fuel scope left
      let b ← evaluate w fuel scope right
      combine w fuel operator a b
    | .both left right => do
      let a ← evaluate w fuel scope left
      if a.isTrue then evaluate w fuel scope right else return a
    | .either left right => do
      let a ← evaluate w fuel scope left
      if a.isTrue then return a else evaluate w fuel scope right
    | .choice condition yes no => do
      if (← evaluate w fuel scope condition).isTrue then evaluate w fuel scope yes
      else evaluate w fuel scope no
    | .assign (.name name) value => do
      let v ← evaluate w fuel scope value
      assignName scope name v
      return v
    | .assign (.member object key) value => do
      let (o, k) ← target w fuel scope object key
      let v ← evaluate w fuel scope value
      putMember o k v
      return v
    | .combine (.name name) operator value => do
      let old ← valueOf scope name
      let v ← combine w fuel operator old (← evaluate w fuel scope value)
      assignName scope name v
      return v
    | .combine (.member object key) operator value => do
      let (o, k) ← target w fuel scope object key
      let old ← memberOf o k
      let v ← combine w fuel operator old (← evaluate w fuel scope value)
      putMember o k v
      return v
    | .step (.name name) up after => do
      let old ← toNumber w fuel (← valueOf scope name)
      let new := if up then old + 1.0 else old - 1.0
      assignName scope name (.number new)
      return .number (if after then old else new)
    | .step (.member object key) up after => do
      let (o, k) ← target w fuel scope object key
      let old ← toNumber w fuel (← memberOf o k)
      let new := if up then old + 1.0 else old - 1.0
      putMember o k (.number new)
      return .number (if after then old else new)
    | .call (.get (.member object key)) arguments => do
      let (o, k) ← target w fuel scope object key
      let f ← memberOf o k
      call w fuel f o (← evaluateAll w fuel scope arguments)
    | .call callee arguments => do
      let f ← evaluate w fuel scope callee
      call w fuel f .undefined (← evaluateAll w fuel scope arguments)
    | .construct callee arguments => do
      let f ← evaluate w fuel scope callee
      let vs ← evaluateAll w fuel scope arguments
      match f with
      | .native (.makeError kind) => call w fuel (.native (.makeError kind)) .undefined vs
      | _ => Run.fail .type "not a constructor"
    | .sequence first second => do
      let _ ← evaluate w fuel scope first
      evaluate w fuel scope second
termination_by structural fuel

def evaluateAll (w : Conditions) (fuel scope : Nat) (es : List Expr) : Run (List Value) :=
  match fuel with
  | 0 => throw (.halted .tooManyCalls)
  | fuel + 1 =>
    match es with
    | [] => return []
    | e :: rest => do
      let v ← evaluate w fuel scope e
      return v :: (← evaluateAll w fuel scope rest)
termination_by structural fuel

/-- Sets the members that the entries of a record give. -/
def fill (w : Conditions) (fuel scope : Nat) (object : Value) (entries : List Entry) : Run Unit :=
  match fuel with
  | 0 => throw (.halted .tooManyCalls)
  | fuel + 1 =>
    match entries with
    | [] => return ()
    | .mk key value :: rest => do
      putMember object key (← evaluate w fuel scope value)
      fill w fuel scope object rest
termination_by structural fuel

/-- An object and the key of a member of it. -/
def target (w : Conditions) (fuel scope : Nat) (object key : Expr) : Run (Value × String) :=
  match fuel with
  | 0 => throw (.halted .tooManyCalls)
  | fuel + 1 => do
    let o ← evaluate w fuel scope object
    let k ← evaluate w fuel scope key
    match o with
    | .undefined | .null => Run.fail .type "cannot convert 'null' or 'undefined' to object"
    | _ => return (o, Text.Utf16.toString (← toText w fuel k))
termination_by structural fuel

def combine (w : Conditions) (fuel : Nat) (operator : Operator) (a b : Value) : Run Value :=
  match fuel with
  | 0 => throw (.halted .tooManyCalls)
  | fuel + 1 =>
    match operator with
    | .same | .notSame => return Value.combined operator a b
    | .equal | .notEqual =>
      match a, b with
      | .undefined, _ | .null, _ | _, .undefined | _, .null => return Value.combined operator a b
      | .object _, .object _ | .object _, .native _ | .native _, .object _ | .native _, .native _ =>
        return Value.combined operator a b
      | _, _ => return Value.combined operator (← toSimple w fuel false a) (← toSimple w fuel false b)
    | _ => return Value.combined operator (← toSimple w fuel false a) (← toSimple w fuel false b)
termination_by structural fuel

/-- A value as one that is not an object: what its own functions say, the one for texts first if
`asText` holds. -/
def toSimple (w : Conditions) (fuel : Nat) (asText : Bool) (v : Value) : Run Value :=
  match fuel with
  | 0 => throw (.halted .tooManyCalls)
  | fuel + 1 =>
    match v with
    | .native f => return .ofString (functionText f.name)
    | .object _ => do
      let (first, second) := if asText then ("toString", "valueOf") else ("valueOf", "toString")
      match ← simpleOf w fuel v (← memberOf v first) with
      | some s => return s
      | none =>
        match ← simpleOf w fuel v (← memberOf v second) with
        | some s => return s
        | none => Run.fail .type "cannot convert object to primitive value"
    | _ => return v
termination_by structural fuel

/-- What a function of a value gives, if that is not an object; nothing for what cannot be called. -/
def simpleOf (w : Conditions) (fuel : Nat) (v f : Value) : Run (Option Value) :=
  match fuel with
  | 0 => throw (.halted .tooManyCalls)
  | fuel + 1 => do
    if f.typeName (← get) = "function" then
      match ← call w fuel f v [] with
      | .object _ | .native _ => return none
      | s => return some s
    else return none
termination_by structural fuel

def toText (w : Conditions) (fuel : Nat) (v : Value) : Run (List UInt16) :=
  match fuel with
  | 0 => throw (.halted .tooManyCalls)
  | fuel + 1 => return (← toSimple w fuel true v).simpleText
termination_by structural fuel

def toNumber (w : Conditions) (fuel : Nat) (v : Value) : Run Float :=
  match fuel with
  | 0 => throw (.halted .tooManyCalls)
  | fuel + 1 => return (← toSimple w fuel false v).simpleNumber
termination_by structural fuel

/-- The texts of values; those of nothing are empty. -/
def toTexts (w : Conditions) (fuel : Nat) (vs : List Value) : Run (List (List UInt16)) :=
  match fuel with
  | 0 => throw (.halted .tooManyCalls)
  | fuel + 1 =>
    match vs with
    | [] => return []
    | .undefined :: rest | .null :: rest => return [] :: (← toTexts w fuel rest)
    | v :: rest => do
      let t ← toText w fuel v
      return t :: (← toTexts w fuel rest)
termination_by structural fuel

/-- The first `count` arguments as texts; those of nothing, and those left out, are absent. -/
def toArguments (w : Conditions) (fuel count : Nat) (vs : List Value) :
    Run (List (Option String)) :=
  match fuel with
  | 0 => throw (.halted .tooManyCalls)
  | fuel + 1 =>
    match count, vs with
    | 0, _ | _, [] => return []
    | count + 1, .undefined :: rest | count + 1, .null :: rest =>
      return none :: (← toArguments w fuel count rest)
    | count + 1, v :: rest => do
      let t ← toText w fuel v
      return some (Text.Utf16.toString t) :: (← toArguments w fuel count rest)
termination_by structural fuel

def call (w : Conditions) (fuel : Nat) (f this : Value) (arguments : List Value) : Run Value :=
  match fuel with
  | 0 => throw (.halted .tooManyCalls)
  | fuel + 1 =>
    match f with
    | .native g => do
      admitCall w.bounds
      callNative w fuel g this arguments
    | .object place => do
      match (← Run.entity place).nature with
      | .closure code scope => do
        admitCall w.bounds
        work w.bounds
        framed (invoke w fuel code scope arguments)
      | _ => Run.fail .type "not a callable function"
    | _ => Run.fail .type "not a callable function"
termination_by structural fuel

def invoke (w : Conditions) (fuel : Nat) (code : Code) (around : Nat) (arguments : List Value) :
    Run Value :=
  match fuel with
  | 0 => throw (.halted .tooManyCalls)
  | fuel + 1 => do
    let own ← if code.ownArguments then do
        let list ← Run.newObject { nature := .arguments, elements := arguments.toArray }
        pure [("arguments", { value := some list : Variable })]
      else pure []
    let scope ← Run.newScope around (parameterVariables own code.parameters arguments)
    addVariables scope (variableNames code.body)
    addFunctions scope scope (functions code.body)
    announce scope (lexicalNames code.body)
    match ← performAll w fuel scope code.body none with
    | .returned v => return v
    | _ => return .undefined
termination_by structural fuel

def callNative (w : Conditions) (fuel : Nat) (f : Native) (this : Value) (arguments : List Value) :
    Run Value :=
  match fuel with
  | 0 => throw (.halted .tooManyCalls)
  | fuel + 1 =>
    let given (i : Nat) : Value := (arguments[i]?).getD .undefined
    match f with
    | .question q =>
      match w.surroundings.library with
      | none => Run.fail .type "PAC functions called outside an evaluation"
      | some library =>
        if q.takesValues then
          if q.hasAnswerToValues library w.surroundings arguments then
            match q.ofValues library w.surroundings arguments with
            | .ok v => return v
            | .error message => Run.fail .type message
          else throw (.halted .collapsed)
        else do
          let texts ← toArguments w fuel q.parameterCount arguments
          if q.hasAnswerToTexts library w.surroundings texts then
            return q.ofTexts library w.surroundings texts
          else throw (.halted .collapsed)
    | .makeError kind =>
      match given 0 with
      | .undefined => Run.newError kind none
      | v => do Run.newError kind (some (← toText w fuel v))
    | .charAt => do
      let units ← toText w fuel this
      let x ← toNumber w fuel (given 0)
      if x < 0.0 then return .text []
      else return .text ((units.drop (clamped units.length x)).take 1)
    | .indexOf => do
      let units ← toText w fuel this
      let part ← toText w fuel (given 0)
      let start := clamped units.length (← toNumber w fuel (given 1))
      match findUnits part start (units.drop start) with
      | some n => return .number (Number.ofInt n)
      | none => return .number (-1.0)
    | .substring => do
      let units ← toText w fuel this
      let a := clamped units.length (← toNumber w fuel (given 0))
      let b ← match given 1 with
        | .undefined => pure units.length
        | v => do pure (clamped units.length (← toNumber w fuel v))
      return .text (unitsBetween units a b)
    | .toUpperCase => do
      let units ← toText w fuel this
      return .text (Text.Utf16.upper units)
    | .toLowerCase => do
      let units ← toText w fuel this
      return .text (Text.Utf16.lower units)
    | .join =>
      match this with
      | .object place => do
        let separator ← match given 0 with
          | .undefined => pure (Text.Utf16.ofString ",")
          | v => toText w fuel v
        let texts ← toTexts w fuel (← Run.entity place).elements.toList
        return .text (joinUnits separator texts)
      | _ => return .text []
    | .toText =>
      match this with
      | .object place => do
        let e ← Run.entity place
        match e.nature with
        | .plain => return .ofString "[object Object]"
        | .arguments => return .ofString "[object Arguments]"
        | .list => do
          let texts ← toTexts w fuel e.elements.toList
          return .text (joinUnits (Text.Utf16.ofString ",") texts)
        | .closure code _ => return .ofString (functionText (code.name.getD ""))
        | .error _ => do
          let name ← toText w fuel (e.member "name")
          let message ← toText w fuel (e.member "message")
          return .text (errorText name message)
      | v => return .text (← toText w fuel v)
    | .itself => return this
termination_by structural fuel

def perform (w : Conditions) (fuel scope : Nat) (s : Statement) : Run Completion :=
  match fuel with
  | 0 => throw (.halted .tooManyCalls)
  | fuel + 1 =>
    match s with
    | .empty | .function .. => return .onward none
    | .expression value => return .onward (some (← evaluate w fuel scope value))
    | .var declarations => do
      declare w fuel scope none declarations
      return .onward none
    | .lexical constant declarations => do
      declare w fuel scope (some constant) declarations
      return .onward none
    | .block body => performBlock w fuel scope body
    | .choice condition yes no => do
      if (← evaluate w fuel scope condition).isTrue then perform w fuel scope yes
      else perform w fuel scope no
    | .loop start tested condition update body => do
      let own ← match start with
        | .lexical constant declarations => do
          let own ← Run.newScope scope []
          announce own (declarations.map fun d => (constant, d.name))
          pure own
        | _ => pure scope
      let _ ← perform w fuel own start
      turn w fuel own (turnNames start) tested condition update body
    | .leave => return .left
    | .skip => return .skipped
    | .result none => return .returned .undefined
    | .result (some value) => return .returned (← evaluate w fuel scope value)
    | .throw value => do throw (.thrown (← evaluate w fuel scope value))
    | .guarded body parameter handler =>
      caught (performBlock w fuel scope body) fun v => do
        let own ← Run.newScope scope (match parameter with
          | some name => [(name, { value := some v })]
          | none => [])
        performBlock w fuel own handler
    | .finally body last =>
      thenLast (performBlock w fuel scope body) (performBlock w fuel scope last)
termination_by structural fuel

/-- How a list of statements ends; `value` is that of the last expression before them. -/
def performAll (w : Conditions) (fuel scope : Nat) (body : List Statement) (value : Option Value) :
    Run Completion :=
  match fuel with
  | 0 => throw (.halted .tooManyCalls)
  | fuel + 1 =>
    match body with
    | [] => return .onward value
    | s :: rest => do
      match ← perform w fuel scope s with
      | .onward v => performAll w fuel scope rest (v <|> value)
      | other => return other
termination_by structural fuel

/-- How a block ends, in a scope of its own if it declares something. -/
def performBlock (w : Conditions) (fuel scope : Nat) (body : List Statement) : Run Completion :=
  match fuel with
  | 0 => throw (.halted .tooManyCalls)
  | fuel + 1 =>
    match lexicalNames body, functions body with
    | [], [] => performAll w fuel scope body none
    | names, inner => do
      let own ← Run.newScope scope []
      announce own names
      addFunctions own own inner
      performAll w fuel own body none
termination_by structural fuel

/-- Gives declared names their values: variables if no constancy is given, where one without a
value keeps what it has. -/
def declare (w : Conditions) (fuel scope : Nat) (constant : Option Bool)
    (declarations : List Declaration) : Run Unit :=
  match fuel with
  | 0 => throw (.halted .tooManyCalls)
  | fuel + 1 =>
    match declarations with
    | [] => return ()
    | .mk name value :: rest => do
      match constant, value with
      | none, none => pure ()
      | none, some e => do assignName scope name (← evaluate w fuel scope e)
      | some c, none => settle scope c name .undefined
      | some c, some e => do settle scope c name (← evaluate w fuel scope e)
      declare w fuel scope constant rest
termination_by structural fuel

/-- How a loop ends, from a turn on; `tested` says whether the condition comes before this turn,
and `names` are the variables that each turn has anew. -/
def turn (w : Conditions) (fuel scope : Nat) (names : List String) (tested : Bool)
    (condition : Expr) (update : Option Expr) (body : Statement) : Run Completion :=
  match fuel with
  | 0 => throw (.halted .tooManyCalls)
  | fuel + 1 => do
    let on ← if tested then do pure (← evaluate w fuel scope condition).isTrue else pure true
    if !on then return .onward none
    else
      match ← perform w fuel scope body with
      | .left => return .onward none
      | .returned v => return .returned v
      | _ => do
        countTurn w.bounds
        let scope ← if names.isEmpty then pure scope else copyScope scope
        match update with
        | some e => do
          let _ ← evaluate w fuel scope e
          turn w fuel scope names true condition update body
        | none => turn w fuel scope names true condition update body
termination_by structural fuel

end

end AutoProxy.Script
