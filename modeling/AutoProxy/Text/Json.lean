import AutoProxy.Number.Whole

/-!
Text in double quotes and values in the JSON notation. In a quoted text a quote, a backslash and the
control characters are written as escapes, so that it stays on one line and ends at its second bare
quote; all else stands for itself. A value is written on one line and without blanks, the fields of an
object in the order in which they are given.
-/

namespace AutoProxy.Text.Quoted

/-- How a character is written between quotes. -/
def encodeChar (c : Char) : List Char :=
  match c with
  | '"' => ['\\', '"']
  | '\\' => ['\\', '\\']
  | '\x08' => ['\\', 'b']
  | '\x0c' => ['\\', 'f']
  | '\n' => ['\\', 'n']
  | '\r' => ['\\', 'r']
  | '\t' => ['\\', 't']
  | c =>
    if c.toNat < 32 then
      '\\' :: 'u' :: '0' :: '0' :: Nat.digitChar (c.toNat / 16) :: [Nat.digitChar (c.toNat % 16)]
    else [c]

/-- A text in quotes. -/
def encode (cs : List Char) : List Char := '"' :: (cs.flatMap encodeChar ++ ['"'])

def quoted (s : String) : String := String.ofList (encode s.toList)

end AutoProxy.Text.Quoted

/-! ## Values -/

namespace AutoProxy.Text

/-- A value of the notation, as far as answers need it. -/
inductive Json where
  | number (value : Nat)
  | text (value : String)
  | list (items : List Json)
  | object (fields : List (String × Json))

namespace Json

mutual

def toText : Json → String
  | number n => toString n
  | text s => Quoted.quoted s
  | list items => "[" ++ itemsText items ++ "]"
  | object fields => "\x7b" ++ fieldsText fields ++ "\x7d"

def itemsText : List Json → String
  | [] => ""
  | [item] => item.toText
  | item :: rest => item.toText ++ "," ++ itemsText rest

def fieldsText : List (String × Json) → String
  | [] => ""
  | [(name, value)] => Quoted.quoted name ++ ":" ++ value.toText
  | (name, value) :: rest => Quoted.quoted name ++ ":" ++ value.toText ++ "," ++ fieldsText rest

end

end Json

end AutoProxy.Text
