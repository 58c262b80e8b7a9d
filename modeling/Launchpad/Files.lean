import Launchpad.Failure.Basic
import Launchpad.Text.Separated

/-!
# Files

The files that a launch can read. A path is followed step by step from the current directory, or
from the root of all directories if it starts with a slash: an empty step and the step `.` stay, the
step `..` leads to the directory around, and every step has to start from a directory that exists.
Two paths that lead to one place name the same file. `Files.fault?` says what keeps a path from
being followed: its form, or the first step that cannot be taken.
-/

namespace Launchpad

/-- What a file holds. -/
inductive FileContent where
  | text (content : String)
  /-- Bytes that are no text. -/
  | binary
  | directory
  deriving DecidableEq, Repr

/-- A place among the directories. -/
structure Place where
  /-- Whether the steps start at the root of all directories, and not at the current one. -/
  fromRoot : Bool
  /-- The steps that lead to the place, the last one first: names and, before all names, steps into
  the directory around. -/
  steps : List String := []
  deriving DecidableEq, Repr

namespace Place

/-- The directory around a place; there is none around the root. -/
def around (place : Place) : Place :=
  match place.steps with
  | [] => if place.fromRoot then place else { place with steps := [".."] }
  | last :: before =>
    { place with steps := if last = ".." then ".." :: place.steps else before }

/-- The place that one step of a path leads to. -/
def step (place : Place) (name : String) : Place :=
  if name = "" || name = "." then place
  else if name = ".." then place.around
  else { place with steps := name :: place.steps }

@[simp] theorem step_empty (place : Place) : place.step "" = place := by simp [step]

@[simp] theorem step_dot (place : Place) : place.step "." = place := by simp [step]

/-- A step into a directory and out of it again leads back. -/
theorem around_step (place : Place) {name : String} (stays : name ≠ "" ∧ name ≠ ".")
    (up : name ≠ "..") : (place.step name).around = place := by
  simp [step, around, stays, up]

/-- Whether a place is a directory whatever files there are, as it lies on the way to the root. -/
def isKnownDirectory (place : Place) : Bool := place.steps.all (· = "..")

/-- The longest name of a file or a directory, in bytes. -/
def nameLimit : Nat := 255

/-- The names in a path. -/
def namesIn (path : String) : List String := (Text.pieces '/' path.toList).map String.ofList

/-- The steps of a path, each with the place that it starts from, and the place where they end. -/
def stepsOn (path : String) : List (Place × String) × Place :=
  (namesIn path).foldl (fun (taken, place) name => (taken ++ [(place, name)], place.step name))
    ([], { fromRoot := path.toList.head? = some '/' })

/-- The place where a path ends. -/
def ofPath (path : String) : Place := (stepsOn path).2

end Place

/-- The files that can be read, by their places. -/
abbrev Files := List (Place × FileContent)

namespace Files

/-- The longest path, in bytes. -/
def pathLimit : Nat := 4095

/-- What every machine has: the directories below the root, and the file that is always empty. -/
def ofMachine : Files :=
  (Place.ofPath "/dev/null", .text "") ::
    ["bin", "boot", "dev", "etc", "home", "lib", "media", "mnt", "opt", "proc", "root", "run",
      "sbin", "srv", "sys", "tmp", "usr", "var"].map
      fun name => ({ fromRoot := true, steps := [name] }, .directory)

/-- What is at a place. -/
def contentAt? (files : Files) (place : Place) : Option FileContent :=
  if place.isKnownDirectory then some .directory else (files ++ ofMachine).lookup place

/-- What keeps a step from being taken: the place that it starts from, or its name. -/
def obstacle? (files : Files) : Place × String → Option FileFault
  | (place, name) =>
    match files.contentAt? place with
    | some .directory => if Place.nameLimit < name.utf8ByteSize then some .nameTooLong else none
    | some _ => some .notDirectory
    | none => some .notFound

/-- What keeps a path from being followed to its end: its form, or else the first step that cannot
be taken. -/
def fault? (files : Files) (path : String) : Option FileFault :=
  if path.toList.contains '\x00' then some .zeroInName
  else if path = "" then some .notFound
  else if pathLimit < path.utf8ByteSize then some .nameTooLong
  else (Place.stepsOn path).1.findSome? files.obstacle?

/-- The content of a file as text. -/
def read (files : Files) (path : String) : Except FileFault String :=
  match files.fault? path with
  | some fault => .error fault
  | none =>
    match files.contentAt? (Place.ofPath path) with
    | some (.text content) => .ok content
    | some .binary => .error .notUtf8
    | some .directory => .error .isDirectory
    | none => .error .notFound

/-- The one file at the end of a path, with the directories on the way to it. -/
def single (path : String) (content : FileContent) : Files :=
  let (taken, place) := Place.stepsOn path
  (place, content) :: taken.map fun step => (step.1, .directory)

end Files

end Launchpad
