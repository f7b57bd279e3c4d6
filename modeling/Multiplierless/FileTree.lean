import Multiplierless.Source.Sink

/-!
The part of a file system that saving a file depends on. Places are named by
their components from the root. There are no links and no permissions: opening a
file for writing fails only because of what the path meets on its way.
-/

namespace Multiplierless

/-- The components from the root to a file or directory. The root itself has
none. -/
abbrev Place := List String

/-- A place that takes bytes without being a file. A full device takes none, a
null device takes all and keeps none, and two devices stand for the streams of the
running program. -/
inductive Device
  | full
  | null
  | stdout
  | stderr
  deriving DecidableEq

/-- The sink that takes what is written to a device. -/
def Device.sink : Device → Sink
  | full => .fullDevice
  | null => .unlimited
  | stdout => .unlimited
  | stderr => .unlimited

/-- What stands at a place. -/
inductive Entry
  | directory
  | file (content : ByteArray)
  | device (d : Device)

/-- A file system with a working directory. -/
structure FileTree where
  workingDirectory : Place
  entries : List (Place × Entry)

/-- A path as it was written, taken apart at the slashes. Empty components stand
for nothing and are left out. -/
structure Path where
  absolute : Bool
  components : List String
  trailingSlash : Bool
  deriving DecidableEq

namespace Path

def ofString (text : String) : Path where
  absolute := text.toList.head? = some '/'
  components := ((text.toList.splitOn '/').filter (· ≠ [])).map String.ofList
  trailingSlash := text.toList.getLast? = some '/'

end Path

/-- What a path that was opened for writing leads to. -/
inductive Target
  | file (place : Place)
  | device (d : Device)
  deriving DecidableEq

namespace Target

/-- The sink that takes what is written to the target. -/
def sink : Target → Sink
  | file _ => .unlimited
  | device d => d.sink

/-- The files that have new content after the given bytes were written. -/
def saved (target : Target) (content : ByteArray) : List (Place × ByteArray) :=
  match target with
  | file place => [(place, content)]
  | device _ => []

/-- What of the given bytes appears on the stream that a device stands for. -/
def printed (target : Target) (stream : Device) (content : ByteArray) : ByteArray :=
  if target = device stream then content else .empty

end Target

namespace FileTree

def entryAt (tree : FileTree) (place : Place) : Option Entry :=
  if place = [] then some .directory else tree.entries.lookup place

/-- A component of a path may have this many bytes. -/
def maxNameBytes : Nat :=
  255

/-- A path as a whole may have this many bytes. -/
def maxPathBytes : Nat :=
  4095

/-- Looks up a name in a directory. A name that no directory could hold is an
error of its own. -/
def child (tree : FileTree) (parent : Place) (name : String) : Except OsError (Option Entry) :=
  if maxNameBytes < name.utf8ByteSize then
    .error .nameTooLong
  else
    .ok (tree.entryAt (parent ++ [name]))

/-- Goes from a directory through further directories. -/
def walk (tree : FileTree) (here : Place) : List String → Except OsError Place
  | [] => .ok here
  | component :: rest =>
      if component = "." then
        tree.walk here rest
      else if component = ".." then
        tree.walk here.dropLast rest
      else
        match tree.child here component with
        | .error e => .error e
        | .ok none => .error .noSuchFile
        | .ok (some .directory) => tree.walk (here ++ [component]) rest
        | .ok (some _) => .error .notADirectory

/-- Opens a path for writing. A file that is there already loses its content, a
missing one is created, but only in a directory that is there. The length of the
path is looked at first, then the way to the last component, then that component
itself. -/
def create (tree : FileTree) (text : String) : Except OsError Target :=
  if text = "" then
    .error .noSuchFile
  else if maxPathBytes < text.utf8ByteSize then
    .error .nameTooLong
  else
    let path := Path.ofString text
    let start := if path.absolute then [] else tree.workingDirectory
    match path.components.getLast? with
    | none => .error .isADirectory
    | some last =>
        match tree.walk start path.components.dropLast with
        | .error e => .error e
        | .ok parent =>
            if last = "." ∨ last = ".." ∨ path.trailingSlash then
              .error .isADirectory
            else
              match tree.child parent last with
              | .error e => .error e
              | .ok (some .directory) => .error .isADirectory
              | .ok (some (.device d)) => .ok (.device d)
              | .ok (some (.file _)) => .ok (.file (parent ++ [last]))
              | .ok none => .ok (.file (parent ++ [last]))

end FileTree

end Multiplierless
