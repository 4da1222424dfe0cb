import AutoProxy.Location

/-!
A tree of files, as far as reading them goes: which paths there are and what is in them. A path is
followed name by name, so that it has to lead through directories even where it turns back. What can go
wrong with a file is said in the words of the operating system.
-/

namespace AutoProxy

/-! ## Faults -/

inductive FileFault where
  | notFound
  | isDirectory
  | notADirectory
  | nameTooLong
  /-- A path holds a byte that no path can hold. -/
  | zeroByte
  | other (text : String)
deriving DecidableEq, Repr

def FileFault.message : FileFault → String
  | notFound => "No such file or directory (os error 2)"
  | isDirectory => "Is a directory (os error 21)"
  | notADirectory => "Not a directory (os error 20)"
  | nameTooLong => "File name too long (os error 36)"
  | zeroByte => "file name contained an unexpected NUL byte"
  | other text => text

def FileFault.isAbsent : FileFault → Bool
  | notFound | notADirectory | nameTooLong | zeroByte => true
  | isDirectory | other _ => false

end AutoProxy

/-! ## Trees of files -/

namespace AutoProxy.Files

abbrev Name := List UInt8

inductive Node where
  | file (content : List UInt8)
  | directory
deriving DecidableEq, Repr

/-- A tree of files: what is at the paths from its root, and where paths begin that do not begin at
the root. -/
structure Disk where
  nodes : List (List Name × Node) := []
  base : List Name := []
deriving DecidableEq, Repr

def slash : UInt8 := 47

/-- The dot of the names that stand for a directory itself and for the one around it. -/
def dot : UInt8 := 46

/-- The names of a path; empty where two slashes meet. -/
def namesOf (bytes : List UInt8) : List Name :=
  match bytes with
  | [] => [[]]
  | b :: rest =>
    if b = slash then [] :: namesOf rest
    else
      match namesOf rest with
      | [] => [[b]]
      | name :: more => (b :: name) :: more

def maxNameLength : Nat := 255

namespace Disk

/-- What is at the end of a way from the root. -/
def node? (d : Disk) (way : List Name) : Option Node :=
  if way.isEmpty then some .directory else d.nodes.lookup way

/-- Follows names from the end of a way: the way to what they lead to. -/
def follow (d : Disk) (way : List Name) : List Name → Except FileFault (List Name)
  | [] => .ok way
  | name :: rest =>
    match d.node? way with
    | none => .error .notFound
    | some (.file _) => .error .notADirectory
    | some .directory =>
      if name.isEmpty || name = [dot] then d.follow way rest
      else if name = [dot, dot] then d.follow way.dropLast rest
      else if maxNameLength < name.length then .error .nameTooLong
      else d.follow (way ++ [name]) rest

/-- The way to what is at a path. -/
def resolve (d : Disk) (path : Path) : Except FileFault (List Name) :=
  if path.bytes.contains 0 then .error .zeroByte
  else if path.bytes.isEmpty then .error .notFound
  else
    let start := if path.bytes.head? = some slash then [] else d.base
    match d.follow start (namesOf path.bytes) with
    | .error fault => .error fault
    | .ok way => if (d.node? way).isSome then .ok way else .error .notFound

def read (d : Disk) (path : Path) : Except FileFault (List UInt8) :=
  match d.resolve path with
  | .error fault => .error fault
  | .ok way =>
    match d.node? way with
    | some (.file content) => .ok content
    | some .directory => .error .isDirectory
    | none => .error .notFound

def isPresent (d : Disk) (path : Path) : Bool := (d.resolve path).toOption.isSome

/-- The tree without what is at the end of a way. -/
def remove (d : Disk) (way : List Name) : Disk :=
  { d with nodes := d.nodes.filter fun (w, _) => !way.isPrefixOf w }

def makeDirectories (d : Disk) (way : List Name) : Disk :=
  let missing := (List.range way.length).map (fun n => way.take (n + 1)) |>.filter fun w =>
    (d.nodes.lookup w).isNone
  { d with nodes := d.nodes ++ missing.map (·, .directory) }

def write (d : Disk) (way : List Name) (content : List UInt8) : Disk :=
  let d := (d.remove way).makeDirectories way.dropLast
  { d with nodes := d.nodes ++ [(way, .file content)] }

end Disk

end AutoProxy.Files
