import AutoProxy.Settings.Basic
import AutoProxy.Toml.Scalar

/-!
Reading TOML documents: lines with keys and values, and headers that say to which table the lines
after them belong.

The document builds up a tree. A table may be opened by a header once; the tables on the
way to it come into being unopened and may be opened later. Tables that a dotted key makes belong
to that key: no header opens them, and no other table is reached by a dotted key.
-/

namespace AutoProxy.Toml

/-! ## The tree -/

open Settings

/-- How a table came into being. -/
inductive Origin where
  | header
  | passed
  | dotted
deriving DecidableEq, Repr

inductive Node where
  | value (document : Document)
  | table (origin : Origin) (entries : List (String × Node))
  /-- A list of tables, each opened by a header, the last one first. -/
  | tables (list : List (List (String × Node)))

abbrev Entries := List (String × Node)

def Entries.set (entries : Entries) (key : String) (node : Node) : Entries :=
  match entries with
  | [] => [(key, node)]
  | (k, n) :: rest => if k = key then (k, node) :: rest else (k, n) :: Entries.set rest key node

/-- The entries with those of the table at the end of a path changed. Of a list of tables the last
one is meant; tables that are missing on the way come into being as `made` tells. -/
def Entries.alter? (made : Origin) (change : Origin → Entries → Option Entries) :
    Origin → List String → Entries → Option Entries
  | origin, [], entries => change origin entries
  | _, key :: path, entries =>
    match entries.lookup key with
    | none =>
      (Entries.alter? made change made path []).map fun inner =>
        Entries.set entries key (.table made inner)
    | some (.value _) => none
    | some (.tables []) => none
    | some (.tables (last :: others)) =>
      (Entries.alter? made change .header path last).map fun last =>
        Entries.set entries key (.tables (last :: others))
    | some (.table origin inner) =>
      if made = .dotted ∧ origin = .header then none
      else
        (Entries.alter? made change origin path inner).map fun inner =>
          Entries.set entries key (.table origin inner)

/-- The entries with a value under a key that is new in its table. -/
def Entries.define? (entries : Entries) (key : String) (node : Node) : Option Entries :=
  if (entries.lookup key).isSome then none else some (Entries.set entries key node)

/-- The entries with a value under a dotted key; `path` is the key without its last name. -/
def Entries.put? (path : List String) (key : String) (value : Document) (entries : Entries) :
    Option Entries :=
  Entries.alter? .dotted
    (fun origin inner =>
      if path.isEmpty ∨ origin = .dotted then Entries.define? inner key (.value value) else none)
    .header path entries

/-- The entries with a table opened under a path. -/
def Entries.open? (path : List String) (key : String) (entries : Entries) : Option Entries :=
  Entries.alter? .passed
    (fun _ inner =>
      match inner.lookup key with
      | none => some (Entries.set inner key (.table .header []))
      | some (.table .passed own) => some (Entries.set inner key (.table .header own))
      | some _ => none)
    .header path entries

/-- The entries with one more table in the list under a path. -/
def Entries.append? (path : List String) (key : String) (entries : Entries) : Option Entries :=
  Entries.alter? .passed
    (fun _ inner =>
      match inner.lookup key with
      | none => some (Entries.set inner key (.tables [[]]))
      | some (.tables list) => some (Entries.set inner key (.tables ([] :: list)))
      | some _ => none)
    .header path entries

mutual

def Node.toDocument : Node → Document
  | .value d => d
  | .table _ entries => .table (Node.ofEntries entries)
  | .tables list => .list (Node.ofTables list).reverse

def Node.ofEntries : List (String × Node) → List (String × Document)
  | [] => []
  | (key, node) :: rest => (key, node.toDocument) :: Node.ofEntries rest

def Node.ofTables : List (List (String × Node)) → List Document
  | [] => []
  | entries :: rest => .table (Node.ofEntries entries) :: Node.ofTables rest

end

/-! ## Lines -/

mutual

/-- A value. Each round goes one step into the text, so that its length bounds them. -/
def value? : Nat → List Char → Read Document
  | 0, _ => none
  | rounds + 1, cs =>
    match cs with
    | '"' :: _ | '\'' :: _ => (text? cs).map fun (s, rest) => (.text s, rest)
    | '[' :: rest => items? rounds [] (skipLines rest.length rest)
    | '\x7b' :: rest =>
      match skipSpaces rest with
      | '\x7d' :: rest => some (.table [], rest)
      | rest => pairs? rounds [] rest
    | _ => scalar? cs

/-- The items of a list after its bracket or a comma; `done` holds those read, from the last. -/
def items? : Nat → List Document → List Char → Read Document
  | 0, _, _ => none
  | rounds + 1, done, cs =>
    match cs with
    | ']' :: rest => some (.list done.reverse, rest)
    | _ =>
      match value? rounds cs with
      | none => none
      | some (item, rest) =>
        match skipLines rest.length rest with
        | ',' :: rest => items? rounds (item :: done) (skipLines rest.length rest)
        | ']' :: rest => some (.list (item :: done).reverse, rest)
        | _ => none

/-- The keys and values of a table in braces. -/
def pairs? : Nat → Entries → List Char → Read Document
  | 0, _, _ => none
  | rounds + 1, entries, cs =>
    match key? cs.length cs with
    | none => none
    | some (key, rest) =>
      match skipSpaces rest with
      | '=' :: rest =>
        match value? rounds (skipSpaces rest) with
        | none => none
        | some (value, rest) =>
          match Entries.put? key.dropLast (key.getLastD "") value entries with
          | none => none
          | some entries =>
            match skipSpaces rest with
            | ',' :: rest => pairs? rounds entries (skipSpaces rest)
            | '\x7d' :: rest => some (.table (Node.ofEntries entries), rest)
            | _ => none
      | _ => none

end

/-- What has been read of a document: its tree and the path of the table that is open. -/
structure Progress where
  entries : Entries := []
  path : List String := []

/-- A key with its value, put into the open table. -/
def Progress.pair? (p : Progress) (cs : List Char) : Option (Progress × List Char) := do
  let (key, rest) ← key? cs.length cs
  match skipSpaces rest with
  | '=' :: rest =>
    let (value, rest) ← value? (2 * rest.length + 2) (skipSpaces rest)
    let entries ← Entries.alter? .passed
      (fun _ inner => Entries.put? key.dropLast (key.getLastD "") value inner) .header p.path p.entries
    return ({ p with entries := entries }, rest)
  | _ => none

/-- A header, which opens a table or adds one to a list of tables. -/
def Progress.header? (p : Progress) (cs : List Char) : Option (Progress × List Char) := do
  let (many, inner) := match cs with
    | '[' :: rest => (true, rest)
    | _ => (false, cs)
  let (key, rest) ← key? inner.length inner
  let rest ← match many, rest with
    | true, ']' :: ']' :: rest => some rest
    | false, ']' :: rest => some rest
    | _, _ => none
  let path := key.dropLast
  let last := key.getLastD ""
  let entries ← if many then Entries.append? path last p.entries
    else Entries.open? path last p.entries
  return (⟨entries, key⟩, rest)

def documentLines? : Nat → Progress → List Char → Option Progress
  | 0, _, _ => none
  | rounds + 1, p, cs =>
    let cs := skipSpaces cs
    let line : Read Progress := match cs with
      | [] | '#' :: _ | '\n' :: _ | '\r' :: _ => some (p, cs)
      | '[' :: rest => p.header? rest
      | _ => p.pair? cs
    match line with
    | none => none
    | some (p, rest) =>
      match skipComment (skipSpaces rest) with
      | [] => some p
      | rest =>
        match lineEnd? rest with
        | some rest => documentLines? rounds p rest
        | none => none

/-- The document that a text holds; a mark of the byte order in front does not count. -/
def document? (cs : List Char) : Option Document :=
  let cs := match cs with
    | '\uFEFF' :: rest => rest
    | _ => cs
  (documentLines? (cs.length + 1) {} cs).map fun p => .table (Node.ofEntries p.entries)

end AutoProxy.Toml
