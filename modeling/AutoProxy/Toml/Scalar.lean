import AutoProxy.Calendar.Instant
import AutoProxy.Number.Whole
import AutoProxy.Settings.Basic

/-!
The words and the simple values of a TOML document. Words are blanks, comments, line ends, texts in quotes
and keys. Each reader takes the rest of the document and answers with what it has read and what is left,
or with nothing if the document is malformed there.

Numbers, truth values and dates are runs of characters without blanks, but that a date may have a blank
before its time of day. Of floating-point numbers and of dates only the form matters here.
-/

namespace AutoProxy.Toml

/-! ## Words -/

abbrev Read (α : Type) := Option (α × List Char)

def isSpace (c : Char) : Bool := c == ' ' || c == '\t'

def skipSpaces (cs : List Char) : List Char := cs.dropWhile isSpace

/-- Characters that stand for themselves: no control characters but the tabulator. -/
def isPlain (c : Char) : Bool := c == '\t' || (32 ≤ c.toNat && c.toNat != 127)

def lineEnd? : List Char → Option (List Char)
  | '\n' :: cs => some cs
  | '\r' :: '\n' :: cs => some cs
  | _ => none

/-- What follows a comment, if there is one, up to the line end. -/
def skipComment : List Char → List Char
  | '#' :: cs => cs.dropWhile isPlain
  | cs => cs

/-- What follows the blanks, comments and line ends between the items of a list; the rounds are
bounded by the length of the text. -/
def skipLines : Nat → List Char → List Char
  | 0, cs => cs
  | rounds + 1, cs =>
    let rest := skipComment (skipSpaces cs)
    match lineEnd? rest with
    | some rest => skipLines rounds rest
    | none => rest

/-! ### Texts in quotes -/

def codePoint? (count : Nat) (cs : List Char) : Read Char :=
  let digits := cs.take count
  if digits.length < count then none
  else
    match Number.ofDigits? 16 digits with
    | some n => if n.isValidChar then some (Char.ofNat n, cs.drop count) else none
    | none => none

/-- The character that stands after a backslash. -/
def escape? : List Char → Read Char
  | 'b' :: cs => some ('\x08', cs)
  | 't' :: cs => some ('\t', cs)
  | 'n' :: cs => some ('\n', cs)
  | 'f' :: cs => some ('\x0c', cs)
  | 'r' :: cs => some ('\r', cs)
  | '"' :: cs => some ('"', cs)
  | '\\' :: cs => some ('\\', cs)
  | 'u' :: cs => codePoint? 4 cs
  | 'U' :: cs => codePoint? 8 cs
  | _ => none

/-- A text in single quotation marks on one line, after the first. -/
def literal? (cs : List Char) : Read (List Char) :=
  let inside (c : Char) : Bool := isPlain c && c != '\''
  match cs.dropWhile inside with
  | '\'' :: rest => some (cs.takeWhile inside, rest)
  | _ => none

/-- A text in double quotation marks on one line, after the first; `done` holds what has been
read, from its end. -/
def basic? : Nat → List Char → List Char → Read (List Char)
  | 0, _, _ => none
  | rounds + 1, done, cs =>
    match cs with
    | '"' :: rest => some (done.reverse, rest)
    | '\\' :: rest =>
      match escape? rest with
      | some (c, rest) => basic? rounds (c :: done) rest
      | none => none
    | c :: rest => if isPlain c then basic? rounds (c :: done) rest else none
    | [] => none

/-- A run of quotation marks inside or at the end of a text of several lines: three of them end
it, and one or two before those belong to it. Answers with the marks that belong to the text, and
whether it has ended. -/
def closing (mark : Char) (cs : List Char) : List Char × Bool × List Char :=
  let run := cs.takeWhile (· == mark)
  let count := min run.length 5
  if 3 ≤ count then (List.replicate (count - 3) mark, true, cs.drop count)
  else (run, false, cs.drop run.length)

def skipBlankLines : List Char → List Char
  | '\n' :: cs => skipBlankLines cs
  | '\r' :: '\n' :: cs => skipBlankLines cs
  | c :: cs => if isSpace c then skipBlankLines cs else c :: cs
  | [] => []

/-- What follows a backslash at the end of a line: all blanks and line ends are passed over. -/
def foldLine? (cs : List Char) : Option (List Char) :=
  (lineEnd? (skipSpaces cs)).map skipBlankLines

/-- A text of several lines after its three marks; `escapes` tells whether a backslash has a
meaning in it. -/
def lines? (mark : Char) (escapes : Bool) : Nat → List Char → List Char → Read (List Char)
  | 0, _, _ => none
  | rounds + 1, done, cs =>
    match lineEnd? cs with
    | some rest => lines? mark escapes rounds ('\n' :: done) rest
    | none =>
      match cs with
      | [] => none
      | c :: rest =>
        if c = mark then
          let (own, ended, rest) := closing mark cs
          if ended then some ((own ++ done).reverse, rest)
          else lines? mark escapes rounds (own ++ done) rest
        else if c = '\\' ∧ escapes then
          match foldLine? rest with
          | some rest => lines? mark escapes rounds done rest
          | none =>
            match escape? rest with
            | some (c, rest) => lines? mark escapes rounds (c :: done) rest
            | none => none
        else if isPlain c then lines? mark escapes rounds (c :: done) rest
        else none

/-- The rest after a line end that follows the opening marks directly. -/
def afterOpening (cs : List Char) : List Char := (lineEnd? cs).getD cs

/-- A text in quotes of any kind. -/
def text? (cs : List Char) : Read String :=
  let read : Read (List Char) := match cs with
    | '"' :: '"' :: '"' :: rest => lines? '"' true (rest.length + 1) [] (afterOpening rest)
    | '\'' :: '\'' :: '\'' :: rest => lines? '\'' false (rest.length + 1) [] (afterOpening rest)
    | '"' :: rest => basic? (rest.length + 1) [] rest
    | '\'' :: rest => literal? rest
    | _ => none
  read.map fun (text, rest) => (String.ofList text, rest)

/-! ### Keys -/

def isKeyChar (c : Char) : Bool := c.isAlphanum || c == '_' || c == '-'

def name? (cs : List Char) : Read String :=
  match cs with
  | '"' :: rest => (basic? (rest.length + 1) [] rest).map fun (s, rest) => (String.ofList s, rest)
  | '\'' :: rest => (literal? rest).map fun (s, rest) => (String.ofList s, rest)
  | _ =>
    let name := cs.takeWhile isKeyChar
    if name.isEmpty then none else some (String.ofList name, cs.dropWhile isKeyChar)

/-- A key: names with dots between them, and blanks around the dots. -/
def key? : Nat → List Char → Read (List String)
  | 0, _ => none
  | rounds + 1, cs =>
    match name? (skipSpaces cs) with
    | none => none
    | some (name, rest) =>
      match skipSpaces rest with
      | '.' :: rest => (key? rounds rest).map fun (names, rest) => (name :: names, rest)
      | rest => some ([name], rest)

/-! ## Values -/

open Settings

/-- The digits of a number whose digits may have single underscores between them. -/
def underscored? (isDigit : Char → Bool) : List Char → Option (List Char)
  | [] => none
  | [c] => if isDigit c then some [c] else none
  | c :: '_' :: cs => if isDigit c then (underscored? isDigit cs).map (c :: ·) else none
  | c :: cs => if isDigit c then (underscored? isDigit cs).map (c :: ·) else none

/-- The number in the digits of a base, underscores between them. -/
def digits? (base : Nat) (cs : List Char) : Option Nat :=
  (underscored? (fun c => (Number.digitOf? base c).isSome) cs).bind (Number.ofDigits? base)

/-- A decimal number without needless zeros in front. -/
def decimal? (cs : List Char) : Option Nat :=
  match cs with
  | '0' :: _ :: _ => none
  | _ => digits? 10 cs

/-- The sign in front, as a factor, and the rest. -/
def sign (cs : List Char) : Int × List Char :=
  match cs with
  | '-' :: rest => (-1, rest)
  | '+' :: rest => (1, rest)
  | _ => (1, cs)

/-- An integer of 64 bits: decimal, or hexadecimal, octal or binary after its mark. -/
def integer? (cs : List Char) : Option Int :=
  let value : Option Int := match cs with
    | '0' :: 'x' :: rest => (digits? 16 rest).map Int.ofNat
    | '0' :: 'o' :: rest => (digits? 8 rest).map Int.ofNat
    | '0' :: 'b' :: rest => (digits? 2 rest).map Int.ofNat
    | _ => let (factor, rest) := sign cs; (decimal? rest).map fun n => factor * n
  value.filter fun n => -(Number.signedLimit : Int) ≤ n && n < Number.signedLimit

def isExponent (cs : List Char) : Bool := (digits? 10 (sign cs).2).isSome

def isFloat (cs : List Char) : Bool :=
  let magnitude := (sign cs).2
  if magnitude = "inf".toList ∨ magnitude = "nan".toList then true
  else
    let isMark (c : Char) : Bool := c == 'e' || c == 'E'
    let (number, exponent) := match Text.cut isMark magnitude with
      | some (number, exponent) => (number, some exponent)
      | none => (magnitude, none)
    let (whole, fraction) := match Text.cut (· == '.') number with
      | some (whole, fraction) => (whole, some fraction)
      | none => (number, none)
    (decimal? whole).isSome && fraction.all (fun f => (digits? 10 f).isSome) &&
      exponent.all isExponent && (fraction.isSome || exponent.isSome)

/-! ### Dates and times -/

def fixed? (width : Nat) (cs : List Char) : Option Nat :=
  if cs.length = width then Number.ofDigits? 10 cs else none

def isDate (cs : List Char) : Bool :=
  match Text.split '-' cs with
  | [year, month, day] =>
    match fixed? 4 year, fixed? 2 month, fixed? 2 day with
    | some year, some month, some day => (Calendar.Date.ofFields? year month day).isSome
    | _, _, _ => false
  | _ => false

def isClock (cs : List Char) : Bool :=
  match Text.split ':' cs with
  | [hour, minute] => (fixed? 2 hour).any (· < 24) && (fixed? 2 minute).any (· < 60)
  | _ => false

/-- Whether the text is a time of day with seconds and possibly a fraction of one. -/
def isTime (cs : List Char) : Bool :=
  let (whole, fraction) := match Text.cut (· == '.') cs with
    | some (whole, fraction) => (whole, some fraction)
    | none => (cs, none)
  fraction.all (fun f => (Number.ofDigits? 10 f).isSome) &&
    match Text.cutLast (· == ':') whole with
    | some (clock, second) => isClock clock && (fixed? 2 second).any (· ≤ 60)
    | none => false

/-- Whether the text is a time of day, possibly with an offset after it. -/
def isZonedTime (cs : List Char) : Bool :=
  isTime cs ||
    (match cs.reverse with
      | 'Z' :: rest | 'z' :: rest => isTime rest.reverse
      | _ =>
        match Text.cut (fun c => c == '+' || c == '-') cs with
        | some (time, offset) => isTime time && isClock offset
        | none => false)

def isDateTime (cs : List Char) : Bool :=
  isDate cs || isTime cs ||
    (isDate (cs.take 10) &&
      match cs.drop 10 with
      | c :: time => (c == 'T' || c == 't' || c == ' ') && isZonedTime time
      | [] => false)

/-! ### All of them -/

def isScalarChar (c : Char) : Bool :=
  c.isAlphanum || c == '_' || c == '+' || c == '-' || c == '.' || c == ':'

/-- The run of characters of a value, and the rest. A date goes on after a blank if digits
follow. -/
def scalarRun (cs : List Char) : List Char × List Char :=
  let run := cs.takeWhile isScalarChar
  let rest := cs.dropWhile isScalarChar
  match rest with
  | ' ' :: c :: more =>
    if isDate run && c.isDigit then
      (run ++ ' ' :: (c :: more).takeWhile isScalarChar, (c :: more).dropWhile isScalarChar)
    else (run, rest)
  | _ => (run, rest)

def scalar? (cs : List Char) : Read Document :=
  let (run, rest) := scalarRun cs
  if run = "true".toList then some (.bool true, rest)
  else if run = "false".toList then some (.bool false, rest)
  else
    match integer? run with
    | some n => some (.integer n, rest)
    | none => if isFloat run || isDateTime run then some (.other, rest) else none

end AutoProxy.Toml
