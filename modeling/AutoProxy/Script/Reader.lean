import AutoProxy.Script.Token
import AutoProxy.Script.Tree

/-!
From the text of a script to its tree. Expressions are read by precedence: an operator is taken as
long as it binds at least as tightly as the level asks. A statement ends at a semicolon, and where
none stands, before a closing brace, at the end of the text, or at the end of a line.

All readers return what follows the part that they have read; none is returned for a text that is
not a script. The fuel bounds the depth of the readers and is a multiple of the number of tokens,
of which each round of them takes at least one.
-/

namespace AutoProxy.Script.Reader

structure Position where
  inFunction : Bool
  inLoop : Bool

/-! ### Marks -/

/-- What follows a mark, if the tokens begin with it. -/
def after? (mark : String) : List Lexeme → Option (List Lexeme)
  | ⟨.mark m, _⟩ :: rest => if m = mark then some rest else none
  | _ => none

def atMark (mark : String) (ts : List Lexeme) : Bool := (after? mark ts).isSome

def afterWord? (word : String) : List Lexeme → Option (List Lexeme)
  | ⟨.word w, _⟩ :: rest => if w = word then some rest else none
  | _ => none

def ended? (ts : List Lexeme) : Option (List Lexeme) :=
  match after? ";" ts with
  | some rest => some rest
  | none =>
    if ts.isEmpty || atMark "\x7d" ts || ts.head?.any Lexeme.afterLine then some ts else none

/-- The level of a mark between two operands, and the expression that it makes of them. -/
def joining? (mark : String) : Option (Nat × (Expr → Expr → Expr)) :=
  match mark with
  | "||" => some (1, .either)
  | "&&" => some (2, .both)
  | "==" => some (3, .binary .equal)
  | "!=" => some (3, .binary .notEqual)
  | "===" => some (3, .binary .same)
  | "!==" => some (3, .binary .notSame)
  | "<" => some (4, .binary .less)
  | ">" => some (4, .binary .greater)
  | "<=" => some (4, .binary .atMost)
  | ">=" => some (4, .binary .atLeast)
  | "+" => some (5, .binary .add)
  | "-" => some (5, .binary .subtract)
  | "*" => some (6, .binary .multiply)
  | "/" => some (6, .binary .divide)
  | "%" => some (6, .binary .remainder)
  | _ => none

/-- The operator of a mark that combines a place with a value. -/
def combining? (mark : String) : Option Operator :=
  match mark with
  | "+=" => some .add
  | "-=" => some .subtract
  | "*=" => some .multiply
  | "/=" => some .divide
  | "%=" => some .remainder
  | _ => none

/-- The operation that a token before its operand stands for. -/
def modifier? : Token → Option (Expr → Expr)
  | .mark "!" => some (.modified .negation)
  | .mark "-" => some (.modified .minus)
  | .mark "+" => some (.modified .plus)
  | .word "typeof" => some .typeOf
  | .word "void" => some (.modified .nothing)
  | _ => none

/-- Whether a mark adds one, or takes one away. -/
def stepping? : Token → Option Bool
  | .mark "++" => some true
  | .mark "--" => some false
  | _ => none

/-- The text of a token that may name a member. -/
def key? : Token → Option String
  | .name n => some n
  | .word w => some w
  | .text units => some (Text.Utf16.toString units)
  | .number x => some (Numeral.toText x)
  | .mark _ => none

/-! ### Parameters -/

/-- The names up to the closing parenthesis, with commas between them. -/
def parameters? : List Lexeme → Option (List String × List Lexeme)
  | ⟨.mark ")", _⟩ :: rest => some ([], rest)
  | ⟨.name n, _⟩ :: ⟨.mark ")", _⟩ :: rest => some ([n], rest)
  | ⟨.name n, _⟩ :: ⟨.mark ",", _⟩ :: rest =>
    (parameters? rest).map fun (names, after) => (n :: names, after)
  | _ => none

/-- The parameters of a function written with an arrow, and what follows the arrow. -/
def arrow? (ts : List Lexeme) : Option (List String × List Lexeme) :=
  let head : Option (List String × List Lexeme) := match ts with
    | ⟨.name n, _⟩ :: rest => some ([n], rest)
    | ⟨.mark "(", _⟩ :: rest => parameters? rest
    | _ => none
  match head with
  | some (names, rest) => (after? "=>" rest).map (names, ·)
  | none => none

/-! ### Expressions and statements -/

/-- The member of an object under a fixed key. -/
def memberOf (object : Expr) (key : String) : Expr :=
  .get (.member object (.text (Text.Utf16.ofString key)))

/-- A statement under a condition or in a loop: a block of its own if it is a function, and not a
declaration of a block. -/
def alone : Statement → Option Statement
  | .lexical .. => none
  | .function name code => some (.block [.function name code])
  | s => some s

mutual

/-- Expressions with commas between them. -/
def expression (fuel : Nat) (ts : List Lexeme) : Option (Expr × List Lexeme) :=
  match fuel with
  | 0 => none
  | fuel + 1 => do
    let (first, ts) ← assignment fuel ts
    match after? "," ts with
    | some rest =>
      let (second, ts) ← expression fuel rest
      return (.sequence first second, ts)
    | none => return (first, ts)

/-- An expression without commas. -/
def assignment (fuel : Nat) (ts : List Lexeme) : Option (Expr × List Lexeme) :=
  match fuel with
  | 0 => none
  | fuel + 1 =>
    match arrow? ts with
    | some (names, rest) => do
      match after? "\x7b" rest with
      | some rest =>
        let (body, ts) ← functionBody fuel names rest
        return (.function (.mk none names body false), ts)
      | none =>
        let (value, ts) ← assignment fuel rest
        return (.function (.mk none names [.result (some value)] false), ts)
    | none => do
      let (left, ts) ← conditional fuel ts
      match left, ts with
      | .get place, ⟨.mark m, _⟩ :: rest =>
        if m = "=" then
          let (value, ts) ← assignment fuel rest
          return (.assign place value, ts)
        else
          match combining? m with
          | some operator =>
            let (value, ts) ← assignment fuel rest
            return (.combine place operator value, ts)
          | none => return (left, ts)
      | _, _ => return (left, ts)

/-- A choice between two expressions, or an expression that binds more tightly. -/
def conditional (fuel : Nat) (ts : List Lexeme) : Option (Expr × List Lexeme) :=
  match fuel with
  | 0 => none
  | fuel + 1 => do
    let (condition, ts) ← joined fuel 0 ts
    match after? "?" ts with
    | some rest =>
      let (yes, ts) ← assignment fuel rest
      let rest ← after? ":" ts
      let (no, ts) ← assignment fuel rest
      return (.choice condition yes no, ts)
    | none => return (condition, ts)

/-- Operands with operators of the level or above between them. -/
def joined (fuel level : Nat) (ts : List Lexeme) : Option (Expr × List Lexeme) :=
  match fuel with
  | 0 => none
  | fuel + 1 => do
    let (left, ts) ← operand fuel ts
    joinedAfter fuel level left ts

/-- What operators of the level or above make of an operand on their left. -/
def joinedAfter (fuel level : Nat) (left : Expr) (ts : List Lexeme) :
    Option (Expr × List Lexeme) :=
  match fuel with
  | 0 => none
  | fuel + 1 =>
    match ts with
    | ⟨.mark m, _⟩ :: rest =>
      match joining? m with
      | some (binding, join) =>
        if level ≤ binding then do
          let (right, ts) ← joined fuel (binding + 1) rest
          joinedAfter fuel level (join left right) ts
        else some (left, ts)
      | none => some (left, ts)
    | _ => some (left, ts)

/-- An operand with the operations before and after it. -/
def operand (fuel : Nat) (ts : List Lexeme) : Option (Expr × List Lexeme) :=
  match fuel with
  | 0 => none
  | fuel + 1 =>
    match ts with
    | [] => none
    | t :: rest =>
      match modifier? t.token with
      | some modify => (operand fuel rest).map fun (e, ts) => (modify e, ts)
      | none =>
        match stepping? t.token with
        | some up =>
          match operand fuel rest with
          | some (.get place, ts) => some (.step place up false, ts)
          | _ => none
        | none => do
          let (e, ts) ← linked fuel (t :: rest)
          match ts with
          | next :: rest =>
            match stepping? next.token with
            | some up =>
              if next.afterLine then return (e, ts)
              else
                match e with
                | .get place => return (.step place up true, rest)
                | _ => none
            | none => return (e, ts)
          | [] => return (e, ts)

/-- A simple expression with the members taken of it and the calls made of it. -/
def linked (fuel : Nat) (ts : List Lexeme) : Option (Expr × List Lexeme) :=
  match fuel with
  | 0 => none
  | fuel + 1 => do
    let (e, ts) ← simple fuel ts
    links fuel true e ts

/-- The members taken of an expression and, if `calls` holds, the calls made of it. -/
def links (fuel : Nat) (calls : Bool) (e : Expr) (ts : List Lexeme) : Option (Expr × List Lexeme) :=
  match fuel with
  | 0 => none
  | fuel + 1 =>
    match ts with
    | ⟨.mark ".", _⟩ :: ⟨.name n, _⟩ :: rest => links fuel calls (memberOf e n) rest
    | ⟨.mark ".", _⟩ :: ⟨.word w, _⟩ :: rest => links fuel calls (memberOf e w) rest
    | ⟨.mark ".", _⟩ :: _ => none
    | ⟨.mark "[", _⟩ :: rest => do
      let (key, ts) ← expression fuel rest
      let rest ← after? "]" ts
      links fuel calls (.get (.member e key)) rest
    | ⟨.mark "(", _⟩ :: rest =>
      if calls then do
        let (arguments, ts) ← items fuel ")" rest
        links fuel calls (.call e arguments) ts
      else some (e, ts)
    | _ => some (e, ts)

def simple (fuel : Nat) (ts : List Lexeme) : Option (Expr × List Lexeme) :=
  match fuel with
  | 0 => none
  | fuel + 1 =>
    match ts with
    | [] => none
    | t :: rest =>
      match t.token with
      | .name n => some (.get (.name n), rest)
      | .number x => some (.number x, rest)
      | .text units => some (.text units, rest)
      | .word "null" => some (.null, rest)
      | .word "true" => some (.boolean true, rest)
      | .word "false" => some (.boolean false, rest)
      | .word "function" => (function fuel rest).map fun (code, ts) => (.function code, ts)
      | .word "new" => do
        let (callee, ts) ← simple fuel rest
        let (callee, ts) ← links fuel false callee ts
        match after? "(" ts with
        | some rest =>
          let (arguments, ts) ← items fuel ")" rest
          return (.construct callee arguments, ts)
        | none => return (.construct callee [], ts)
      | .mark "(" => do
        let (e, ts) ← expression fuel rest
        let rest ← after? ")" ts
        return (e, rest)
      | .mark "[" => (items fuel "]" rest).map fun (es, ts) => (.list es, ts)
      | .mark "\x7b" => (entries fuel rest).map fun (es, ts) => (.record es, ts)
      | _ => none

/-- The expressions up to the closing mark, with commas between them. -/
def items (fuel : Nat) (closing : String) (ts : List Lexeme) : Option (List Expr × List Lexeme) :=
  match fuel with
  | 0 => none
  | fuel + 1 =>
    match after? closing ts with
    | some rest => some ([], rest)
    | none => do
      let (e, ts) ← assignment fuel ts
      match after? "," ts with
      | some rest =>
        let (more, ts) ← items fuel closing rest
        return (e :: more, ts)
      | none =>
        let rest ← after? closing ts
        return ([e], rest)

def entries (fuel : Nat) (ts : List Lexeme) : Option (List Entry × List Lexeme) :=
  match fuel with
  | 0 => none
  | fuel + 1 =>
    match after? "\x7d" ts with
    | some rest => some ([], rest)
    | none => do
      let (e, ts) ← entry fuel ts
      match after? "," ts with
      | some rest =>
        let (more, ts) ← entries fuel rest
        return (e :: more, ts)
      | none =>
        let rest ← after? "\x7d" ts
        return ([e], rest)

/-- An entry of a record: a key with a value, a method, or a name that stands for both. -/
def entry (fuel : Nat) (ts : List Lexeme) : Option (Entry × List Lexeme) :=
  match fuel with
  | 0 => none
  | fuel + 1 =>
    match ts with
    | [] => none
    | t :: rest => do
      let key ← key? t.token
      match after? ":" rest with
      | some rest =>
        let (value, ts) ← assignment fuel rest
        return (.mk key value, ts)
      | none =>
        if atMark "(" rest then
          let (names, body, ts) ← functionTail fuel rest
          return (.mk key (.function (.mk (some key) names body true)), ts)
        else
          match t.token with
          | .name n => return (.mk n (.get (.name n)), rest)
          | _ => none

def function (fuel : Nat) (ts : List Lexeme) : Option (Code × List Lexeme) :=
  match fuel with
  | 0 => none
  | fuel + 1 =>
    match ts with
    | ⟨.name n, _⟩ :: rest => do
      let (names, body, ts) ← functionTail fuel rest
      return (.mk (some n) names body true, ts)
    | _ => do
      let (names, body, ts) ← functionTail fuel ts
      return (.mk none names body true, ts)

/-- The parameters and the body of a function. -/
def functionTail (fuel : Nat) (ts : List Lexeme) :
    Option (List String × List Statement × List Lexeme) :=
  match fuel with
  | 0 => none
  | fuel + 1 => do
    let rest ← after? "(" ts
    let (names, ts) ← parameters? rest
    let rest ← after? "\x7b" ts
    let (body, ts) ← functionBody fuel names rest
    return (names, body, ts)

/-- The statements of a function with the given parameters, up to the closing brace. -/
def functionBody (fuel : Nat) (names : List String) (ts : List Lexeme) :
    Option (List Statement × List Lexeme) :=
  match fuel with
  | 0 => none
  | fuel + 1 => do
    let (body, ts) ← statements fuel ⟨true, false⟩ true ts
    if bodyAgrees names body then return (body, ts) else none

/-- Statements up to a closing brace if `closing` holds, or else to the end of the text. -/
def statements (fuel : Nat) (position : Position) (closing : Bool) (ts : List Lexeme) :
    Option (List Statement × List Lexeme) :=
  match fuel with
  | 0 => none
  | fuel + 1 =>
    if ts.isEmpty then (if closing then none else some ([], []))
    else
      match if closing then after? "\x7d" ts else none with
      | some rest => some ([], rest)
      | none => do
        let (s, ts) ← statement fuel position ts
        let (more, ts) ← statements fuel position closing ts
        return (s :: more, ts)

/-- A block, from behind its opening brace on. -/
def block (fuel : Nat) (position : Position) (ts : List Lexeme) :
    Option (List Statement × List Lexeme) :=
  match fuel with
  | 0 => none
  | fuel + 1 => do
    let (body, ts) ← statements fuel position true ts
    if blockAgrees body then return (body, ts) else none

/-- A statement under a condition or in a loop. -/
def inner (fuel : Nat) (position : Position) (ts : List Lexeme) :
    Option (Statement × List Lexeme) :=
  match fuel with
  | 0 => none
  | fuel + 1 => do
    let (s, ts) ← statement fuel position ts
    let s ← alone s
    return (s, ts)

/-- Declared names with the values they get; each needs one if `constant` holds. -/
def declarations (fuel : Nat) (constant : Bool) (ts : List Lexeme) :
    Option (List Declaration × List Lexeme) :=
  match fuel with
  | 0 => none
  | fuel + 1 =>
    match ts with
    | ⟨.name n, _⟩ :: rest => do
      let (value, ts) ← match after? "=" rest with
        | some rest => (assignment fuel rest).map fun (value, ts) => (some value, ts)
        | none => if constant then none else some (none, rest)
      match after? "," ts with
      | some rest =>
        let (more, ts) ← declarations fuel constant rest
        return (.mk n value :: more, ts)
      | none => return ([.mk n value], ts)
    | _ => none

/-- A declaration with `var`, `let` or `const`, without its end. -/
def declaring (fuel : Nat) (ts : List Lexeme) : Option (Statement × List Lexeme) :=
  match fuel with
  | 0 => none
  | fuel + 1 =>
    match ts with
    | ⟨.word "var", _⟩ :: rest =>
      (declarations fuel false rest).map fun (ds, ts) => (.var ds, ts)
    | ⟨.word "let", _⟩ :: rest =>
      (declarations fuel false rest).map fun (ds, ts) => (.lexical false ds, ts)
    | ⟨.word "const", _⟩ :: rest =>
      (declarations fuel true rest).map fun (ds, ts) => (.lexical true ds, ts)
    | _ => none

/-- An expression, or none before the closing mark, which is taken as well. -/
def optional (fuel : Nat) (closing : String) (ts : List Lexeme) :
    Option (Option Expr × List Lexeme) :=
  match fuel with
  | 0 => none
  | fuel + 1 =>
    match after? closing ts with
    | some rest => some (none, rest)
    | none => do
      let (e, ts) ← expression fuel ts
      let rest ← after? closing ts
      return (some e, rest)

/-- What a counted loop does before its first turn, with the semicolon. -/
def loopStart (fuel : Nat) (ts : List Lexeme) : Option (Statement × List Lexeme) :=
  match fuel with
  | 0 => none
  | fuel + 1 =>
    match declaring fuel ts with
    | some (s, ts) => (after? ";" ts).map (s, ·)
    | none =>
      (optional fuel ";" ts).map fun (e, ts) =>
        (match e with
          | some e => .expression e
          | none => .empty, ts)

def condition (fuel : Nat) (ts : List Lexeme) : Option (Expr × List Lexeme) :=
  match fuel with
  | 0 => none
  | fuel + 1 => do
    let rest ← after? "(" ts
    let (e, ts) ← expression fuel rest
    let rest ← after? ")" ts
    return (e, rest)

/-- What follows the block of a guarded statement: a handler, a last block, or both. -/
def guards (fuel : Nat) (position : Position) (body : List Statement) (ts : List Lexeme) :
    Option (Statement × List Lexeme) :=
  match fuel with
  | 0 => none
  | fuel + 1 => do
    let (handled, ts) : Option Statement × List Lexeme ← match afterWord? "catch" ts with
      | none => some (none, ts)
      | some rest => do
        let (parameter, rest) : Option String × List Lexeme ← match rest with
          | ⟨.mark "(", _⟩ :: ⟨.name n, _⟩ :: ⟨.mark ")", _⟩ :: more => some (some n, more)
          | _ => some (none, rest)
        let rest ← after? "\x7b" rest
        let (handler, ts) ← block fuel position rest
        if (lexicalNames handler).any fun d => parameter == some d.2 then none
        else some (some (.guarded body parameter handler), ts)
    match afterWord? "finally" ts with
    | some rest =>
      let rest ← after? "\x7b" rest
      let (last, ts) ← block fuel position rest
      return (.finally (handled.elim body fun s => [s]) last, ts)
    | none =>
      let s ← handled
      return (s, ts)

/-- A statement that begins with a word of the language. -/
def worded (fuel : Nat) (position : Position) (word : String) (ts : List Lexeme) :
    Option (Statement × List Lexeme) :=
  match fuel with
  | 0 => none
  | fuel + 1 =>
    let looped : Position := { position with inLoop := true }
    match word with
    | "function" => do
      let (code, ts) ← function fuel ts
      let name ← code.name
      return (.function name code, ts)
    | "if" => do
      let (condition, ts) ← condition fuel ts
      let (yes, ts) ← inner fuel position ts
      match afterWord? "else" ts with
      | some rest =>
        let (no, ts) ← inner fuel position rest
        return (.choice condition yes no, ts)
      | none => return (.choice condition yes .empty, ts)
    | "while" => do
      let (condition, ts) ← condition fuel ts
      let (body, ts) ← inner fuel looped ts
      return (.loop .empty true condition none body, ts)
    | "do" => do
      let (body, ts) ← inner fuel looped ts
      let rest ← afterWord? "while" ts
      let (condition, ts) ← condition fuel rest
      return (.loop .empty false condition none body, (after? ";" ts).getD ts)
    | "for" => do
      let rest ← after? "(" ts
      let (start, ts) ← loopStart fuel rest
      let (condition, ts) ← optional fuel ";" ts
      let (update, ts) ← optional fuel ")" ts
      let (body, ts) ← inner fuel looped ts
      return (.loop start true (condition.getD (.boolean true)) update body, ts)
    | "break" => if position.inLoop then (ended? ts).map (.leave, ·) else none
    | "continue" => if position.inLoop then (ended? ts).map (.skip, ·) else none
    | "return" =>
      if !position.inFunction then none
      else
        match ended? ts with
        | some rest => some (.result none, rest)
        | none => do
          let (value, ts) ← expression fuel ts
          let rest ← ended? ts
          return (.result (some value), rest)
    | "throw" =>
      if ts.head?.any Lexeme.afterLine then none
      else do
        let (value, ts) ← expression fuel ts
        let rest ← ended? ts
        return (.throw value, rest)
    | "try" => do
      let rest ← after? "\x7b" ts
      let (body, ts) ← block fuel position rest
      guards fuel position body ts
    | _ => none

def evaluated (fuel : Nat) (ts : List Lexeme) : Option (Statement × List Lexeme) :=
  match fuel with
  | 0 => none
  | fuel + 1 => do
    let (e, ts) ← expression fuel ts
    let rest ← ended? ts
    return (.expression e, rest)

def statement (fuel : Nat) (position : Position) (ts : List Lexeme) :
    Option (Statement × List Lexeme) :=
  match fuel with
  | 0 => none
  | fuel + 1 =>
    match ts with
    | ⟨.mark "\x7b", _⟩ :: rest => (block fuel position rest).map fun (body, ts) => (.block body, ts)
    | ⟨.mark ";", _⟩ :: rest => some (.empty, rest)
    | ⟨.word w, _⟩ :: rest =>
      if w = "var" || w = "let" || w = "const" then do
        let (s, ts) ← declaring fuel ts
        let rest ← ended? ts
        return (s, rest)
      else if (["function", "if", "while", "do", "for", "break", "continue", "return", "throw",
          "try"]).contains w then worded fuel position w rest
      else evaluated fuel ts
    | _ => evaluated fuel ts

end

/-- The fuel that suffices for so many tokens. -/
def fuelFor (count : Nat) : Nat := 16 * (count + 2)

end AutoProxy.Script.Reader

namespace AutoProxy.Script

def program? (cs : List Char) : Option (List Statement) :=
  match Token.ofText? cs with
  | none => none
  | some ts =>
    match Reader.statements (Reader.fuelFor ts.length) ⟨false, false⟩ false ts with
    | some (body, _) => if bodyAgrees [] body then some body else none
    | none => none

end AutoProxy.Script
