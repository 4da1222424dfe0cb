import AutoProxy.Script.Question

/-!
The members of values: those that a value has by its nature, those that were given to it, and the
native functions among them.
-/

namespace AutoProxy.Script

/-! ### Native functions -/

namespace Native

def name : Native → String
  | question q => q.name
  | makeError kind => kind.name
  | charAt => "charAt"
  | indexOf => "indexOf"
  | substring => "substring"
  | toUpperCase => "toUpperCase"
  | toLowerCase => "toLowerCase"
  | join => "join"
  | toText => "toString"
  | itself => "valueOf"

def parameterCount : Native → Nat
  | question q => q.parameterCount
  | makeError _ | charAt | indexOf | join => 1
  | substring => 2
  | toUpperCase | toLowerCase | toText | itself => 0

end Native

def functionText (name : String) : String := "function " ++ name ++ "() \x7b [native code] \x7d"

/-! ### Members -/

/-- The number that a key stands for, if it is written as a number of an element is. -/
def elementNumber? (key : String) : Option Nat :=
  match key.toList with
  | ['0'] => some 0
  | '0' :: _ => none
  | cs => Number.ofDigits? 10 cs

/-- A member that values of every type have. -/
def commonMember (key : String) : Value :=
  match key with
  | "toString" => .native .toText
  | "valueOf" => .native .itself
  | _ => .undefined

/-- A member of a text: its length, one of its units, or a function. -/
def textMember (units : List UInt16) (key : String) : Value :=
  match key with
  | "length" => .number (Number.ofInt units.length)
  | "charAt" => .native .charAt
  | "indexOf" => .native .indexOf
  | "substring" => .native .substring
  | "toUpperCase" => .native .toUpperCase
  | "toLowerCase" => .native .toLowerCase
  | _ =>
    match (elementNumber? key).bind (units[·]?) with
    | some u => .text [u]
    | none => commonMember key

/-- A member that a function has from its definition. -/
def functionMember (name : String) (count : Nat) (key : String) : Value :=
  match key with
  | "name" => .ofString name
  | "length" => .number (Number.ofInt count)
  | _ => commonMember key

/-- An element of a list, its length, or the function that joins its elements. -/
def listMember (elements : Array Value) (key : String) : Value :=
  match key with
  | "length" => .number (Number.ofInt elements.size)
  | "join" => .native .join
  | _ =>
    match (elementNumber? key).bind (elements[·]?) with
    | some v => v
    | none => commonMember key

/-- A member of an object: one that it was given, or one that it has by its nature. -/
def Entity.member (e : Entity) (key : String) : Value :=
  match e.members.lookup key with
  | some v => v
  | none =>
    match e.nature with
    | .plain => commonMember key
    | .list | .arguments => listMember e.elements key
    | .closure code _ => functionMember (code.name.getD "") code.parameters.length key
    | .error kind =>
      match key with
      | "name" => .ofString kind.name
      | "message" => .text []
      | _ => commonMember key

def memberOf (v : Value) (key : String) : Run Value :=
  match v with
  | .undefined | .null => Run.fail .type "cannot convert 'null' or 'undefined' to object"
  | .boolean _ | .number _ => return commonMember key
  | .text units => return textMember units key
  | .native f => return functionMember f.name f.parameterCount key
  | .object place => return (← Run.entity place).member key

/-- The members with one of them replaced, or added at the end. -/
def memberPut (key : String) (v : Value) : List (String × Value) → List (String × Value)
  | [] => [(key, v)]
  | (k, old) :: rest => if k = key then (k, v) :: rest else (k, old) :: memberPut key v rest

/-- The longest list that an assignment to an element makes. -/
def maxElements : Nat := 16777216

def Entity.put (e : Entity) (key : String) (v : Value) : Entity :=
  match e.nature, elementNumber? key with
  | .list, some n =>
    if n < e.elements.size then { e with elements := e.elements.setIfInBounds n v }
    else if n < maxElements then
      let gap := Array.replicate (n - e.elements.size) Value.undefined
      { e with elements := (e.elements ++ gap).push v }
    else { e with members := memberPut key v e.members }
  | _, _ => { e with members := memberPut key v e.members }

/-- Sets a member of a value; nothing happens to a value that is not an object. -/
def putMember (object : Value) (key : String) (v : Value) : Run Unit :=
  match object with
  | .undefined | .null => Run.fail .type "cannot convert 'null' or 'undefined' to object"
  | .object place => Run.modifyEntity place (·.put key v)
  | _ => return ()

end AutoProxy.Script
