/-!
The script language as a tree: expressions, places that can be assigned to, statements and the code
of functions. What a function declares with `var` or as an inner function belongs to the whole
function; what a block declares with `let` or `const` belongs to the block.
-/

namespace AutoProxy.Script

inductive Operator where
  | add
  | subtract
  | multiply
  | divide
  | remainder
  | equal
  | notEqual
  | same
  | notSame
  | less
  | greater
  | atMost
  | atLeast
deriving DecidableEq, Repr

inductive Modifier where
  | minus
  | plus
  | negation
  | nothing
deriving DecidableEq, Repr

mutual

inductive Expr where
  | null
  | boolean (value : Bool)
  | number (value : Float)
  | text (units : List UInt16)
  | list (items : List Expr)
  | record (entries : List Entry)
  | function (code : Code)
  | get (place : Place)
  | typeOf (operand : Expr)
  | modified (operator : Modifier) (operand : Expr)
  | binary (operator : Operator) (left right : Expr)
  | both (left right : Expr)
  | either (left right : Expr)
  | choice (condition yes no : Expr)
  | assign (place : Place) (value : Expr)
  | combine (place : Place) (operator : Operator) (value : Expr)
  /-- Adds one or takes one away; the value is that from before if `after` holds. -/
  | step (place : Place) (up after : Bool)
  | call (callee : Expr) (arguments : List Expr)
  | construct (callee : Expr) (arguments : List Expr)
  | sequence (first second : Expr)

/-- What can be read and assigned to. -/
inductive Place where
  | name (name : String)
  | member (object key : Expr)

inductive Entry where
  | mk (key : String) (value : Expr)

/-- A function: its name, parameters and body, and whether it has arguments of its own. -/
inductive Code where
  | mk (name : Option String) (parameters : List String) (body : List Statement)
    (ownArguments : Bool)

inductive Declaration where
  | mk (name : String) (value : Option Expr)

inductive Statement where
  | empty
  | expression (value : Expr)
  | var (declarations : List Declaration)
  | lexical (constant : Bool) (declarations : List Declaration)
  | function (name : String) (code : Code)
  | block (body : List Statement)
  | choice (condition : Expr) (yes no : Statement)
  /-- A loop; `tested` says whether the condition comes before the first turn. -/
  | loop (start : Statement) (tested : Bool) (condition : Expr) (update : Option Expr)
    (body : Statement)
  | leave
  | skip
  | result (value : Option Expr)
  | throw (value : Expr)
  | guarded (body : List Statement) (parameter : Option String) (handler : List Statement)
  | finally (body last : List Statement)

end

namespace Code

def name : Code → Option String
  | mk name _ _ _ => name

def parameters : Code → List String
  | mk _ parameters _ _ => parameters

def body : Code → List Statement
  | mk _ _ body _ => body

def ownArguments : Code → Bool
  | mk _ _ _ ownArguments => ownArguments

end Code

def Declaration.name : Declaration → String
  | mk name _ => name

/-! ### Declared names -/

mutual

def Statement.variableNames : Statement → List String
  | .var declarations => declarations.map Declaration.name
  | .block body => variableNames body
  | .choice _ yes no => yes.variableNames ++ no.variableNames
  | .loop start _ _ _ body => start.variableNames ++ body.variableNames
  | .guarded body _ handler => variableNames body ++ variableNames handler
  | .finally body last => variableNames body ++ variableNames last
  | _ => []

def variableNames : List Statement → List String
  | [] => []
  | s :: rest => s.variableNames ++ variableNames rest

end

/-- The functions that a list of statements declares, in order. -/
def functions : List Statement → List (String × Code)
  | [] => []
  | .function name code :: rest => (name, code) :: functions rest
  | _ :: rest => functions rest

/-- The names that a list of statements declares with `let` and `const`, and which of the two. -/
def lexicalNames : List Statement → List (Bool × String)
  | [] => []
  | .lexical constant declarations :: rest =>
    declarations.map (fun d => (constant, d.name)) ++ lexicalNames rest
  | _ :: rest => lexicalNames rest

def allDistinct : List String → Bool
  | [] => true
  | n :: rest => !rest.contains n && allDistinct rest

/-- Whether each name that a list of statements declares with `let` or `const` is declared there
only once; `others` are the names declared otherwise. -/
def lexicalAgree (others : List String) (body : List Statement) : Bool :=
  let names := (lexicalNames body).map Prod.snd
  allDistinct names && names.all fun n => !others.contains n

def bodyAgrees (parameters : List String) (body : List Statement) : Bool :=
  lexicalAgree (parameters ++ variableNames body ++ (functions body).map Prod.fst) body

def blockAgrees (body : List Statement) : Bool :=
  lexicalAgree (variableNames body ++ (functions body).map Prod.fst) body

end AutoProxy.Script
