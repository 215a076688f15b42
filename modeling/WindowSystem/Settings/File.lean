/-
# Settings files

The two formats of settings files, told apart by the extension of the file name, and what loading
and saving do with a file. A file is seen as the bytes at a path, or as none where there is no
such file.
-/
import WindowSystem.Failure
import WindowSystem.Ron.Writer
import WindowSystem.Settings.Notation
import WindowSystem.Toml.Document
import WindowSystem.Toml.Writer

namespace WindowSystem

/-- The formats of a settings file. -/
inductive FileFormat where
  | toml | ron
  deriving DecidableEq, Repr

namespace FileFormat

/-- The last part of a path: what follows its last slash, slashes at the very end and parts that
are a single dot apart. Two dots are no name. -/
def fileName (path : List Char) : Option (List Char) :=
  let parts := (path.splitOn '/').filter fun part => !part.isEmpty && part != ['.']
  match parts.getLast? with
  | some name => if name = ['.', '.'] then none else some name
  | none => none

/-- The extension of a file name: what follows its last dot. A name whose only dot comes first
has none. -/
def extension (name : List Char) : Option (List Char) :=
  let back := name.reverse
  let after := (back.takeWhile (· != '.')).reverse
  let before := (back.dropWhile (· != '.')).drop 1
  if before.isEmpty then none else some after

/-- The format that the extension of a path chooses; lower case matters. -/
def ofPath (path : String) : Except SettingsError FileFormat :=
  match (fileName path.toList).bind extension with
  | some ext =>
    if ext = "toml".toList then .ok .toml
    else if ext = "ron".toList then .ok .ron
    else .error (.unsupportedFormat path)
  | none => .error (.unsupportedFormat path)

end FileFormat

namespace Settings

/-- The text of settings in a format. TOML has no integers beyond 64 bits with sign. -/
def render (s : Settings) : FileFormat → Except SettingsError String
  | .toml =>
    match Toml.document? .pretty s.toFields with
    | some text => .ok text
    | none => .error (.serialize "out-of-range value for u64 type")
  | .ron => .ok (String.ofList (Ron.render 0 s.toTerm))

/-- Reads settings from a text in a format. -/
def parse (text : String) : FileFormat → Except SettingsError Settings
  | .toml =>
    match (Toml.parse? text).bind (ofFields? Datum.isEmpty) with
    | some s => .ok s
    | none => .error (.parse "not a settings document")
  | .ron =>
    match (Ron.parse? text).bind fun (extensions, t) => ofTerm? extensions t with
    | some s => .ok s
    | none => .error (.parse "not a settings structure")

/-- Loads settings from the contents of the file at a path. The file is read, as text, before its
extension is looked at. -/
def load (path : String) (contents : Option ByteArray) : Except SettingsError Settings :=
  match contents with
  | none => .error (.io "no such file")
  | some bytes =>
    match String.fromUTF8? bytes with
    | none => .error (.io "stream did not contain valid UTF-8")
    | some text =>
      match FileFormat.ofPath path with
      | .error e => .error e
      | .ok format => parse text format

/-- The contents that saving settings at a path writes. The format is chosen first; `writable`
tells whether a file can be written there. -/
def save (s : Settings) (path : String) (writable : Bool) : Except SettingsError String :=
  match FileFormat.ofPath path with
  | .error e => .error e
  | .ok format =>
    match s.render format with
    | .error e => .error e
    | .ok text => if writable then .ok text else .error (.io "no such directory")

end Settings

end WindowSystem
