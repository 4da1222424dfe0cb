import Mathlib.Data.List.TakeWhile
import AutoProxy.Script.Token

/-!
How a text is read that goes on. What consists of tokens by itself is read in the same way when a line end
and anything else follow, and what follows is then read by itself (`Reads.append_line`). Other text can
only be read with what follows if a comment or a text literal was left open in it; if what follows can end
neither, it cannot be read at all (`Reads.of_append_line`).

`Reads` says what the tokens of a text are without a word on fuel; it is what the reader gives
(`ofText?_eq_some_iff`), since each token takes at least one character.
-/

namespace AutoProxy.Script.Token

open Text

variable {gap : Gap} {line : Bool} {cs rest after tail : List Char} {c d quote : Char} {stage : Stage}
  {token : Token} {units : List UInt16} {ts us : List Lexeme} {x : Float} {p : Char → Bool}

/-! ### Between tokens -/

/-- Whether an exponent has a minus sign, and what follows its sign. -/
def sign (cs : List Char) : Bool × List Char :=
  match cs with
  | '-' :: more => (true, more)
  | '+' :: more => (false, more)
  | _ => (false, cs)

/-- The digits behind a point, and what follows them. -/
def fraction (cs : List Char) : List Char × List Char :=
  match cs with
  | '.' :: more => (more.takeWhile Char.isDigit, more.dropWhile Char.isDigit)
  | other => ([], other)

/-- What a character does to the reader of a text literal. -/
inductive Move where
  | closes
  | breaks
  /-- These units have been read, and so the reader stands. -/
  | on (units : List UInt16) (stage : Stage)

end AutoProxy.Script.Token
