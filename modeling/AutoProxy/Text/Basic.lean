/-!
Text as a list of characters: what counts as blank, trimming, cutting at a character, comparison that
ignores the case of ASCII letters, and line breaks.

Everything here is a plain recursion on the list, so that a parser built from it can be
unfolded one character at a time. The functions on `String` only convert.
-/

namespace AutoProxy.Text

/-- White space in the sense of the Unicode property `White_Space`. -/
def isBlank (c : Char) : Bool :=
  let n := c.toNat
  (9 ≤ n && n ≤ 13) || n == 0x20 || n == 0x85 || n == 0xA0 || n == 0x1680 ||
    (0x2000 ≤ n && n ≤ 0x200A) || n == 0x2028 || n == 0x2029 || n == 0x202F ||
    n == 0x205F || n == 0x3000

/-! ### Trimming -/

def trimStart (cs : List Char) : List Char := cs.dropWhile isBlank

def trimEnd (cs : List Char) : List Char := (cs.reverse.dropWhile isBlank).reverse

def trim (cs : List Char) : List Char := trimEnd (trimStart cs)

/-! ### Cutting -/

/-- The text before and after the first character with property `p`, which is dropped. -/
def cut (p : Char → Bool) : List Char → Option (List Char × List Char)
  | [] => none
  | c :: cs => if p c then some ([], cs) else (cut p cs).map fun (before, after) => (c :: before, after)

/-- The text before and after the last character with property `p`, which is dropped. -/
def cutLast (p : Char → Bool) (cs : List Char) : Option (List Char × List Char) :=
  (cut p cs.reverse).map fun (after, before) => (before.reverse, after.reverse)

/-- The parts of the text between the separators; one part more than there are separators. -/
def split (separator : Char) : List Char → List (List Char)
  | [] => [[]]
  | c :: cs =>
    if c = separator then [] :: split separator cs
    else match split separator cs with
      | [] => [[c]]
      | part :: parts => (c :: part) :: parts

/-- What follows `start`, when the text begins with it. -/
def dropPrefix? : List Char → List Char → Option (List Char)
  | [], cs => some cs
  | _ :: _, [] => none
  | p :: ps, c :: cs => if p = c then dropPrefix? ps cs else none

/-- Whether `part` occurs in the text as one run. -/
def contains (part : List Char) : List Char → Bool
  | [] => part.isEmpty
  | c :: cs => part.isPrefixOf (c :: cs) || contains part cs

def byteLength (cs : List Char) : Nat := cs.foldr (fun c length => c.utf8Size + length) 0

/-! ### ASCII letters -/

def toUpper (cs : List Char) : List Char := cs.map Char.toUpper

def toLower (cs : List Char) : List Char := cs.map Char.toLower

def sameIgnoringCase (a b : List Char) : Bool := toLower a == toLower b

def startsWithIgnoringCase (start cs : List Char) : Bool :=
  sameIgnoringCase start (cs.take start.length)

/-! ### Strings -/

/-- The string without the blanks at either end. -/
def trimmed (s : String) : String := String.ofList (trim s.toList)

/-- A string of blanks only, or the empty one. -/
def isBlankString (s : String) : Bool := s.toList.all isBlank

def sameWord (a b : String) : Bool := sameIgnoringCase a.toList b.toList

end AutoProxy.Text

/-! ## Line breaks -/

namespace AutoProxy.Text.LineBreak

def joinPairs : List Char → List Char
  | '\r' :: '\n' :: cs => '\n' :: joinPairs cs
  | c :: cs => c :: joinPairs cs
  | [] => []

def replaceReturns (cs : List Char) : List Char := cs.map fun c => if c = '\r' then '\n' else c

/-- A line feed at the end of a non-empty text that has none there. -/
def closeLast (cs : List Char) : List Char :=
  if cs = [] ∨ cs.getLast? = some '\n' then cs else cs ++ ['\n']

/-- All breaks as line feeds, the last line closed. -/
def normalize (cs : List Char) : List Char := closeLast (replaceReturns (joinPairs cs))

end AutoProxy.Text.LineBreak

namespace AutoProxy.Text

def normalizeLines (s : String) : String := String.ofList (LineBreak.normalize s.toList)

end AutoProxy.Text
