import AutoProxy.Number.Double
import AutoProxy.Number.Whole
import AutoProxy.Text.Unicode

/-!
The tokens of the script language. Between tokens there may be blanks, line ends and comments, and
of these only whether a line ended is kept. Literals are read one character at a time, with a stage
that says what has begun, so that a literal can be followed character by character.

A number is written with the fewest digits that read back, in full from 1e-6 up to below 1e21 and with an
exponent elsewhere. A text stands for a number if, without the blanks around it, it is a literal; the
empty text stands for zero.
-/

namespace AutoProxy.Script

inductive Token where
  /-- A name that a script may give to something. -/
  | name (text : String)
  /-- A word of the language. -/
  | word (text : String)
  | mark (text : String)
  | number (value : Float)
  | text (units : List UInt16)

/-- A token, and whether a line ended before it. -/
structure Lexeme where
  token : Token
  afterLine : Bool

namespace Token

/-! ### Between tokens -/

def isLineEnd (c : Char) : Bool := c == '\n' || c == '\r' || c == '\u2028' || c == '\u2029'

def isSpace (c : Char) : Bool := c == '\uFEFF' || (Text.isBlank c && !isLineEnd c && c != '\x85')

/-- What stands between two tokens. -/
inductive Gap where
  | blank
  | lineComment
  | blockComment

/-- The text from the next token on, and whether a line ended before it; nothing if a comment is
left open. -/
def skip (gap : Gap) (line : Bool) (cs : List Char) : Option (Bool × List Char) :=
  match gap, cs with
  | .blockComment, [] => none
  | _, [] => some (line, [])
  | .blank, '/' :: '/' :: rest => skip .lineComment line rest
  | .blank, '/' :: '*' :: rest => skip .blockComment line rest
  | .blank, c :: rest =>
    if isLineEnd c then skip .blank true rest
    else if isSpace c then skip .blank line rest
    else some (line, c :: rest)
  | .lineComment, c :: rest =>
    if isLineEnd c then skip .blank true rest else skip .lineComment line rest
  | .blockComment, '*' :: '/' :: rest => skip .blank line rest
  | .blockComment, c :: rest => skip .blockComment (line || isLineEnd c) rest

/-! ### Texts -/

/-- Where the reader of a text literal stands. -/
inductive Stage where
  | plain
  | escaped
  /-- After an escaped carriage return, to which a line feed may belong. -/
  | afterReturn
  /-- After the letter of an escape by code point. -/
  | point
  /-- So many digits are missing. -/
  | digits (missing value : Nat)
  /-- Within the braces of an escape by code point. -/
  | braced (value : Nat)

/-- The character that a letter stands for after a backslash. -/
def escapeOf (c : Char) : Char :=
  match c with
  | 'n' => '\n'
  | 't' => '\t'
  | 'r' => '\r'
  | 'b' => '\x08'
  | 'f' => '\x0c'
  | 'v' => '\x0b'
  | '0' => '\x00'
  | _ => c

/-- The units of a text literal from the given stage up to the quote that closes it, and what
follows. -/
def readText (quote : Char) (stage : Stage) (cs : List Char) : Option (List UInt16 × List Char) :=
  let give (units : List UInt16) (read : Option (List UInt16 × List Char)) :
      Option (List UInt16 × List Char) :=
    read.map fun (more, after) => (units ++ more, after)
  match cs with
  | [] => none
  | c :: rest =>
    match stage with
    | .plain =>
      if c = quote then some ([], rest)
      else if c = '\\' then readText quote .escaped rest
      else if c = '\n' || c = '\r' then none
      else give (Text.Utf16.encodeChar c) (readText quote .plain rest)
    | .afterReturn =>
      if c = '\n' then readText quote .plain rest
      else if c = quote then some ([], rest)
      else if c = '\\' then readText quote .escaped rest
      else if c = '\r' then none
      else give (Text.Utf16.encodeChar c) (readText quote .plain rest)
    | .escaped =>
      if c = '\r' then readText quote .afterReturn rest
      else if isLineEnd c then readText quote .plain rest
      else if c = 'x' then readText quote (.digits 2 0) rest
      else if c = 'u' then readText quote .point rest
      else give (Text.Utf16.encodeChar (escapeOf c)) (readText quote .plain rest)
    | .point =>
      if c = '\x7b' then readText quote (.braced 0) rest
      else
        match Number.digit? c with
        | some d => readText quote (.digits 3 d) rest
        | none => none
    | .digits missing value =>
      match Number.digit? c with
      | some d =>
        if missing ≤ 1 then give [UInt16.ofNat (value * 16 + d)] (readText quote .plain rest)
        else readText quote (.digits (missing - 1) (value * 16 + d)) rest
      | none => none
    | .braced value =>
      if c = '\x7d' then give (Text.Utf16.encodePoint value) (readText quote .plain rest)
      else
        match Number.digit? c with
        | some d =>
          if value * 16 + d < 0x110000 then readText quote (.braced (value * 16 + d)) rest else none
        | none => none

/-! ### Numbers -/

/-- The exponent of a decimal literal, and what follows; zero if there is none. -/
def readExponent (cs : List Char) : Int × List Char :=
  match cs with
  | e :: rest =>
    if e = 'e' || e = 'E' then
      let (negative, digits) : Bool × List Char := match rest with
        | '-' :: more => (true, more)
        | '+' :: more => (false, more)
        | _ => (false, rest)
      match Number.ofDigits? 10 (digits.takeWhile Char.isDigit) with
      | some n => (if negative then -(n : Int) else (n : Int), digits.dropWhile Char.isDigit)
      | none => (0, cs)
    else (0, cs)
  | [] => (0, [])

/-- The double nearest to `n * 10 ^ e`. -/
def scaled (n : Nat) (e : Int) : Float :=
  if 0 ≤ e then Float.ofScientific n false e.toNat else Float.ofScientific n true (-e).toNat

/-- A decimal number at the start of a text, and what follows. -/
def readDecimal (cs : List Char) : Option (Float × List Char) :=
  let whole := cs.takeWhile Char.isDigit
  let (part, rest) : List Char × List Char := match cs.dropWhile Char.isDigit with
    | '.' :: more => (more.takeWhile Char.isDigit, more.dropWhile Char.isDigit)
    | other => ([], other)
  match Number.ofDigits? 10 (whole ++ part) with
  | none => none
  | some n =>
    let (e, after) := readExponent rest
    some (scaled n (e - (part.length : Int)), after)

/-- A whole number in a base that its second character names, and what follows. -/
def readBased (base : Nat) (cs : List Char) : Option (Float × List Char) :=
  let isDigit (c : Char) : Bool := (Number.digitOf? base c).isSome
  (Number.ofDigits? base (cs.takeWhile isDigit)).map fun n => (scaled n 0, cs.dropWhile isDigit)

def base? (c : Char) : Option Nat :=
  match c with
  | 'x' | 'X' => some 16
  | 'o' | 'O' => some 8
  | 'b' | 'B' => some 2
  | _ => none

/-- A number literal at the start of a text, and what follows. A zero before more digits asks for
base eight if all of them belong to it. -/
def readNumber (cs : List Char) : Option (Float × List Char) :=
  match cs with
  | '0' :: c :: rest =>
    match base? c with
    | some base => readBased base rest
    | none =>
      let digits := (c :: rest).takeWhile Char.isDigit
      if !digits.isEmpty && digits.all (fun d => (Number.digitOf? 8 d).isSome) then
        readBased 8 (c :: rest)
      else readDecimal cs
  | _ => readDecimal cs

/-! ### Names and marks -/

/-- A letter outside ASCII: all but blanks, line ends and the marks of the first blocks. -/
def isForeignLetter (c : Char) : Bool :=
  let n := c.toNat
  (n == 0xAA || n == 0xB5 || n == 0xBA || (0xC0 ≤ n && n != 0xD7 && n != 0xF7)) &&
    !isSpace c && !isLineEnd c && !(0x2010 ≤ n && n ≤ 0x206F) && !(0x3001 ≤ n && n ≤ 0x3003)

def isNameStart (c : Char) : Bool := c.isAlpha || c == '$' || c == '_' || isForeignLetter c

def isNameChar (c : Char) : Bool := isNameStart c || c.isDigit

def reserved : List String :=
  ["break", "case", "catch", "class", "const", "continue", "debugger", "default", "delete", "do",
    "else", "enum", "export", "extends", "false", "finally", "for", "function", "if", "import", "in",
    "instanceof", "let", "new", "null", "return", "super", "switch", "this", "throw", "true", "try",
    "typeof", "var", "void", "while", "with"]

/-- The marks, longer ones before those they begin with. -/
def marks : List String :=
  [">>>=", "===", "!==", "**=", "<<=", ">>=", ">>>", "...", "=>", "==", "!=", "<=", ">=", "&&", "||",
    "??", "?.", "++", "--", "+=", "-=", "*=", "/=", "%=", "&=", "|=", "^=", "**", "<<", ">>", "\x7b",
    "\x7d", "(", ")", "[", "]", ";", ",", "<", ">", "+", "-", "*", "/", "%", "&", "|", "^", "!", "~",
    "?", ":", "=", "."]

/-- The first of the marks with which a text begins, and what follows it. -/
def readMark (cs : List Char) : List String → Option (Token × List Char)
  | [] => none
  | m :: rest =>
    match Text.dropPrefix? m.toList cs with
    | some after => some (.mark m, after)
    | none => readMark cs rest

/-! ### Tokens -/

/-- The token with which a text begins, and what follows it. A number may not run into a name. -/
def read (cs : List Char) : Option (Token × List Char) :=
  match cs with
  | [] => none
  | c :: rest =>
    if c = '"' || c = '\'' then
      (readText c .plain rest).map fun (units, after) => (.text units, after)
    else if isNameStart c then
      let text := String.ofList (cs.takeWhile isNameChar)
      some (if reserved.contains text then .word text else .name text, cs.dropWhile isNameChar)
    else if c.isDigit || (c = '.' && rest.head?.any Char.isDigit) then
      match readNumber cs with
      | some (value, after) =>
        if after.head?.any isNameChar then none else some (.number value, after)
      | none => none
    else readMark cs marks

/-- The tokens of a text, at most as many as the fuel allows. -/
def readAll : Nat → List Char → Option (List Lexeme)
  | 0, _ => none
  | fuel + 1, cs =>
    match skip .blank false cs with
    | none => none
    | some (_, []) => some []
    | some (line, rest) =>
      match read rest with
      | none => none
      | some (token, after) => (readAll fuel after).map (⟨token, line⟩ :: ·)

def ofText? (cs : List Char) : Option (List Lexeme) := readAll (cs.length + 1) cs

end Token

end AutoProxy.Script

/-! ## Numerals -/

namespace AutoProxy.Script.Numeral

def nan : Float := 0.0 / 0.0

def infinity : Float := 1.0 / 0.0

/-! ### Writing -/

/-- The largest number of digits before the point that are written in full. -/
def maxWhole : Int := 21

/-- The largest number of zeros after the point that are written in full. -/
def maxZeros : Int := 6

/-- One digit, the others behind a point, and the exponent with its sign. -/
def withExponent (d : Number.Decimal) : List Char :=
  let e := d.point - 1
  let exponent := (if e < 0 then '-' else '+') :: Nat.toDigits 10 e.natAbs
  match d.digits with
  | [] => []
  | [first] => first :: 'e' :: exponent
  | first :: more => first :: '.' :: (more ++ 'e' :: exponent)

def decimalText (d : Number.Decimal) : List Char :=
  if -maxZeros < d.point ∧ d.point ≤ maxWhole then d.positional else withExponent d

/-- The text of a number. Zero has no sign. -/
def toText (x : Float) : String :=
  match Number.parts? x with
  | none => if x == x then (if x < 0 then "-Infinity" else "Infinity") else "NaN"
  | some p =>
    if p.mantissa = 0 then "0"
    else
      let text := decimalText p.shortest
      String.ofList (if p.negative then '-' :: text else text)

/-! ### Reading -/

def ofDecimal (cs : List Char) : Float :=
  match Token.readDecimal cs with
  | some (x, []) => x
  | _ => nan

def ofSigned (cs : List Char) : Float :=
  match cs with
  | '-' :: rest => if rest = "Infinity".toList then -infinity else -(ofDecimal rest)
  | '+' :: rest => if rest = "Infinity".toList then infinity else ofDecimal rest
  | _ => if cs = "Infinity".toList then infinity else ofDecimal cs

/-- A blank of the script language, a line end included. -/
def isBlank (c : Char) : Bool := Token.isSpace c || Token.isLineEnd c

/-- The number that a text stands for, or not a number. -/
def ofText (cs : List Char) : Float :=
  let body := ((cs.dropWhile isBlank).reverse.dropWhile isBlank).reverse
  match body with
  | [] => 0.0
  | '0' :: c :: rest =>
    match Token.base? c with
    | some base =>
      match Token.readBased base rest with
      | some (x, []) => x
      | _ => nan
    | none => ofDecimal body
  | _ => ofSigned body

end AutoProxy.Script.Numeral
