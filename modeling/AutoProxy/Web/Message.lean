import AutoProxy.Text.Basic
import AutoProxy.Text.Unicode
import AutoProxy.Text.Utf8

/-!
Header fields and bodies of web messages. Names of fields are compared without regard to the case of
their letters; a value is a run of bytes, of which only visible ASCII is read as text.

A mark at the start of the body decides how its bytes become text; without one the `charset` of its
`Content-Type` does, and without that the body is in the Western character set of 256 characters.
-/

namespace AutoProxy.Web

structure Header where
  name : String
  value : List UInt8
deriving DecidableEq, Repr

namespace Header

/-- Characters that a name may hold besides letters and digits. -/
def nameMarks : List Char :=
  ['!', '#', '$', '%', '&', '\'', '*', '+', '-', '.', '^', '_', '\x60', '|', '~']

/-- Whether a text is a name: letters, digits and marks, one at least. -/
def isName (name : String) : Bool :=
  !name.isEmpty && name.toList.all fun c => c.isAlphanum || nameMarks.contains c

/-- Whether a byte may stand in a value: no control character but the tabulator. -/
def isValueByte (b : UInt8) : Bool := (32 ≤ b && b != 127) || b == 9

def isValid (h : Header) : Bool := isName h.name && h.value.all isValueByte

/-- Whether a byte of a value can be read as text. -/
def isVisible (b : UInt8) : Bool := (32 ≤ b && b < 127) || b == 9

/-- The value as text, if it is visible ASCII throughout. -/
def text? (h : Header) : Option (List Char) :=
  if h.value.all isVisible then some (h.value.map fun b => Char.ofNat b.toNat) else none

/-- The first field of a name, in any case of its letters. -/
def find? (name : String) (headers : List Header) : Option Header :=
  headers.find? fun h => Text.sameWord h.name name

end Header

/-! ## Character sets -/

inductive Charset where
  | utf8
  | utf16Big
  | utf16Little
  | western
deriving DecidableEq, Repr

namespace Charset

/-! ### Names -/

def labels : List (Charset × List String) :=
  [(utf8, ["unicode-1-1-utf-8", "unicode11utf8", "unicode20utf8", "utf-8", "utf8",
      "x-unicode20utf8"]),
    (utf16Big, ["unicodefffe", "utf-16be"]),
    (utf16Little, ["csunicode", "iso-10646-ucs-2", "ucs-2", "unicode", "unicodefeff", "utf-16",
      "utf-16le"]),
    (western, ["ansi_x3.4-1968", "ascii", "cp1252", "cp819", "csisolatin1", "ibm819", "iso-8859-1",
      "iso-ir-100", "iso8859-1", "iso88591", "iso_8859-1", "iso_8859-1:1987", "l1", "latin1",
      "us-ascii", "windows-1252", "x-cp1252"])]

/-- The character set of a name, in any case of its letters; an unknown name means UTF-8. -/
def ofLabel (name : List Char) : Charset :=
  let label := String.ofList (Text.toLower (Text.trim name))
  match labels.find? fun (_, names) => names.contains label with
  | some (charset, _) => charset
  | none => utf8

/-! ### Reading -/

/-- The characters of the bytes from 0x80 to 0x9F in the Western character set. -/
def westernMarks : List Nat :=
  [0x20AC, 0x81, 0x201A, 0x192, 0x201E, 0x2026, 0x2020, 0x2021, 0x2C6, 0x2030, 0x160, 0x2039, 0x152,
    0x8D, 0x17D, 0x8F, 0x90, 0x2018, 0x2019, 0x201C, 0x201D, 0x2022, 0x2013, 0x2014, 0x2DC, 0x2122,
    0x161, 0x203A, 0x153, 0x9D, 0x17E, 0x178]

def westernChar (b : UInt8) : Char :=
  let n := b.toNat
  Char.ofNat (if 0x80 ≤ n ∧ n < 0xA0 then (westernMarks[n - 0x80]?).getD n else n)

/-- The units of two bytes each; a byte left over is a unit that is no character. -/
def units (big : Bool) : List UInt8 → List UInt16
  | [] => []
  | [_] => [0xDC00]
  | a :: b :: rest =>
    (if big then a.toUInt16 * 256 + b.toUInt16 else b.toUInt16 * 256 + a.toUInt16) :: units big rest

def decode (bytes : List UInt8) : Charset → List Char
  | utf8 => Text.Utf8.decodeLossy bytes
  | utf16Big => Text.Utf16.decodeLossy (units true bytes)
  | utf16Little => Text.Utf16.decodeLossy (units false bytes)
  | western => bytes.map westernChar

/-- The text of a body; the mark that decides how it is read is not part of the text. -/
def bodyText (charset : Charset) (bytes : List UInt8) : List Char :=
  match bytes with
  | 0xEF :: 0xBB :: 0xBF :: rest => decode rest utf8
  | 0xFE :: 0xFF :: rest => decode rest utf16Big
  | 0xFF :: 0xFE :: rest => decode rest utf16Little
  | _ => decode bytes charset

/-! ### Content types -/

def isWordChar (c : Char) : Bool := c.isAlphanum || Header.nameMarks.contains c

/-- The value of a parameter: a word, or what stands in quotes. -/
def parameterValue? (cs : List Char) : Option (List Char) :=
  match cs with
  | '"' :: rest =>
    match Text.cut (· == '"') rest with
    | some (value, []) => some value
    | _ => none
  | _ => if cs.isEmpty || !cs.all isWordChar then none else some cs

/-- A parameter: its name in small letters, and its value. -/
def parameter? (cs : List Char) : Option (List Char × List Char) := do
  let (name, value) ← Text.cut (· == '=') (Text.trim cs)
  if name.isEmpty || !name.all isWordChar then none
  else return (Text.toLower name, ← parameterValue? value)

/-- The name of the character set that a content type gives; nothing if it gives none or is not
well formed. -/
def named? (contentType : List Char) : Option (List Char) :=
  match Text.split ';' contentType with
  | [] => none
  | kind :: rest => do
    let (main, sub) ← Text.cut (· == '/') (Text.trim kind)
    if main.isEmpty || sub.isEmpty || !main.all isWordChar || !sub.all isWordChar then none
    else
      let parameters ← rest.mapM parameter?
      parameters.lookup "charset".toList

def ofHeaders (headers : List Header) : Charset :=
  match ((Header.find? "Content-Type" headers).bind Header.text?).bind named? with
  | some name => ofLabel name
  | none => western

end Charset

end AutoProxy.Web
