import AutoProxy.Files
import AutoProxy.Source.Basic

/-!
Watching the file of a script. The directory of the file is watched, since a file is often replaced
and not written in place; whenever something of the name of the file changes there, the text that
the source keeps is set aside.

What changes is told in events. Which of them are about the script is decided by names alone
(`Event.affects`).
-/

namespace AutoProxy

open Files

inductive WatchFault where
  | notAFile (location : String)
  | noDirectory (path : String)
deriving DecidableEq, Repr

def WatchFault.message : WatchFault → String
  | notAFile location => "Only file-backed PAC scripts can be watched, got " ++ location
  | noDirectory path => "Failed to watch directory: " ++ path

/-- What is watched: a directory, and the name in it that matters. -/
structure Watch where
  directory : List Name
  name : Name
deriving DecidableEq, Repr

namespace Watch

/-! ### Paths -/

/-- The bytes of a path, last to first, without the slashes and the dots for the directory itself
with which they begin. -/
def trimmed : List UInt8 → List UInt8
  | [] => []
  | b :: rest =>
    if b = slash then trimmed rest
    else if b = dot ∧ rest.head?.all (· == slash) ∧ !rest.isEmpty then trimmed rest
    else b :: rest

/-- The path of the directory in which the last name of a path lies; where a path has no slash, the
directory in which paths begin. -/
def parentOf (path : Path) : Path :=
  let back := trimmed path.bytes.reverse
  let before := back.dropWhile (· != slash)
  let parent := (trimmed before).reverse
  if !parent.isEmpty then ⟨parent⟩
  else if !before.isEmpty && path.bytes.head? = some slash then ⟨[slash]⟩
  else ⟨[dot]⟩

/-- The last name of a path, if it is the name of something. -/
def nameOf? (path : Path) : Option Name :=
  let name := ((trimmed path.bytes.reverse).takeWhile (· != slash)).reverse
  if name.isEmpty || name = [dot] || name = [dot, dot] then none else some name

/-! ### Events -/

inductive Change where
  | created
  | modified
  | removed
  | accessed
  /-- What has been done is not known. -/
  | unknown
deriving DecidableEq, Repr

/-- Whether a file may hold something else after the change. -/
def Change.matters : Change → Bool
  | created | modified | removed => true
  | accessed | unknown => false

/-- What the system tells of a change: what has been done, and to which paths. -/
structure Event where
  change : Change
  paths : List Path
deriving DecidableEq, Repr

/-- Whether an event may mean another script: one of its paths has the name of the script's path, and
the change is one that matters. -/
def Event.affects (e : Event) (script : Path) : Bool :=
  e.paths.any (fun path => nameOf? path = nameOf? script) && e.change.matters

/-! ### Watching -/

def start (disk : Disk) (location : Location) : Except WatchFault Watch :=
  match location.path? with
  | none => .error (.notAFile location.toText)
  | some path =>
    match disk.resolve (parentOf path) with
    | .ok directory => .ok ⟨directory, (nameOf? path).getD []⟩
    | .error _ => .error (.noDirectory (parentOf path).toText)

/-- Whether a change at the end of a way matters. -/
def concerns (w : Watch) (way : List Name) : Bool := way == w.directory ++ [w.name]

/-- The source after a change at the end of a way. -/
def notice (w : Watch) (way : List Name) (s : Source) : Source :=
  if w.concerns way then s.invalidate else s

end Watch

end AutoProxy
