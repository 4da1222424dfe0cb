import AutoProxy.Url.Reader

/-!
Where a script is kept: in a file, on a server, or in memory. A text without `://` is the path of
a file; any other has to be the address of a file on this machine or of a resource of the web.
-/

namespace AutoProxy

structure Path where
  bytes : List UInt8
deriving DecidableEq, Repr

def Path.ofText (s : String) : Path := ⟨Text.Utf8.encode s.toList⟩

/-- The path as text; what is no text shows as the replacement character. -/
def Path.toText (p : Path) : String := String.ofList (Text.Utf8.decodeLossy p.bytes)

inductive Location where
  | file (path : Path)
  | remote (url : Url)
  | inline (script : String)
deriving DecidableEq, Repr

inductive LocationFault where
  | empty
  | invalidUrl (text : String) (fault : UrlFault)
  | notLocal (text : String)
  | unsupportedScheme (scheme : String)
deriving DecidableEq, Repr

def LocationFault.message : LocationFault → String
  | empty => "empty script source"
  | invalidUrl text fault => "invalid script URL '" ++ text ++ "': " ++ fault.message
  | notLocal text => "'" ++ text ++ "' is not a local file URL"
  | unsupportedScheme scheme => "unsupported script source scheme '" ++ scheme ++ "'"

namespace Location

/-- The location that a text names; blanks around it do not count. -/
def ofText (s : String) : Except LocationFault Location :=
  let chars := Text.trim s.toList
  let text := String.ofList chars
  if chars.isEmpty then .error .empty
  else if !Text.contains "://".toList chars then .ok (.file (Path.ofText text))
  else
    match Url.ofText text with
    | .error fault => .error (.invalidUrl text fault)
    | .ok url =>
      match url.scheme with
      | "http" | "https" => .ok (.remote url)
      | "file" =>
        match url.filePath? with
        | some bytes => .ok (.file ⟨bytes⟩)
        | none => .error (.notLocal text)
      | scheme => .error (.unsupportedScheme scheme)

/-- The host that serves a script of the web, as its address writes it. -/
def remoteHost? : Location → Option String
  | remote url => url.host?.map Host.toText
  | _ => none

def path? : Location → Option Path
  | file path => some path
  | _ => none

def toText : Location → String
  | file path => path.toText
  | remote url => url.toText
  | inline _ => "<inline>"

end Location

end AutoProxy
