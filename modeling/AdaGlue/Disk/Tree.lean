/-
A disk held in memory: the directories and files below a root, the directory that paths which are
not absolute start from, and the device that all of it stands on. The entries say what a request
comes to, as long as the device goes along with it. A device may refuse what the entries allow, and
may break off a write that has begun, so that a part of the file is left. Nothing else changes with
a request that fails, except that the directories made on the way to one that cannot be made stay.
-/
import AdaGlue.Disk
import AdaGlue.Path

namespace AdaGlue.Disk

inductive Entry where
  | directory
  | file (contents : List UInt8)
  deriving DecidableEq

/-- Where an entry stands: the names on the way from the root. -/
abbrev Location := List String

/-- Why a request fails. -/
inductive Refusal where
  | notFound
  | alreadyThere
  | notDirectory
  | isDirectory
  | nameTooLong
  | nulInName
  /-- The device gives a reason of its own. -/
  | device (reason : String)
  deriving DecidableEq, Repr

def Refusal.reason : Refusal → String
  | .notFound => "No such file or directory (os error 2)"
  | .alreadyThere => "File exists (os error 17)"
  | .notDirectory => "Not a directory (os error 20)"
  | .isDirectory => "Is a directory (os error 21)"
  | .nameTooLong => "File name too long (os error 36)"
  | .nulInName => "file name contained an unexpected NUL byte"
  | .device reason => reason

/-- What goes wrong with a change that the entries allow. -/
inductive Mishap where
  /-- Nothing is changed. -/
  | refused (reason : String)
  /-- A file is made, and so many bytes get into it. -/
  | brokenOff (written : Nat) (reason : String)
  deriving DecidableEq, Repr

def Mishap.reason : Mishap → String
  | .refused reason | .brokenOff _ reason => reason

/-- What a device does of its own accord, be it for want of permission or room or because it is out
of order. Nothing is known of when it does: the answers depend on how many changes it has been asked
for before, in any way. -/
structure Device where
  /-- What goes wrong with the next change. -/
  mishap : Nat → Option Mishap := fun _ => none
  /-- Why a file that stands there cannot be read. -/
  unreadable : Nat → Location → Option String := fun _ _ => none

/-- The entries of a disk, the root apart, which is always a directory. -/
structure Tree where
  /-- The directory that relative paths start from. -/
  home : Location := []
  entries : List (Location × Entry) := []
  device : Device := {}
  /-- The number of changes that the device has been asked for. -/
  asked : Nat := 0

namespace Tree

def entry? (t : Tree) (place : Location) : Option Entry :=
  if place = [] then some .directory else t.entries.lookup place

/-- Puts an entry at a place, instead of one that stands there. -/
def put (t : Tree) (place : Location) (e : Entry) : Tree :=
  { t with entries := (place, e) :: t.entries.filter (·.1 ≠ place) }

/-- Takes away what stands at a place and below it. -/
def cut (t : Tree) (place : Location) : Tree :=
  { t with entries := t.entries.filter fun e => !place.isPrefixOf e.1 }

/-! ## From paths to places -/

/-- What a path leads to. -/
inductive Target where
  | found (place : Location) (e : Entry)
  /-- Nothing stands at the place, and a directory does above it. A path that ends in a separator
  can only name a directory there. -/
  | vacant (place : Location) (directoryOnly : Bool)
  deriving DecidableEq

/-- Names longer than this many bytes are refused. -/
def longestName : Nat := 255

/-- Paths longer than this many bytes are refused. -/
def longestPath : Nat := 4095

/-- Follows names from the directory `dir`. Empty names and `.` stay, and `..` goes up, at the root
nowhere. -/
def walk (t : Tree) (dir : Location) : List String → Except Refusal Target
  | [] => .ok (.found dir .directory)
  | name :: more =>
    if name = "" ∨ name = "." then t.walk dir more
    else if name = ".." then t.walk dir.dropLast more
    else if longestName < name.utf8ByteSize then .error .nameTooLong
    else
      let place := dir ++ [name]
      match t.entry? place with
      | some .directory => t.walk place more
      | some (.file contents) =>
        if more = [] then .ok (.found place (.file contents)) else .error .notDirectory
      | none =>
        if more.all (· = "") then .ok (.vacant place (more ≠ [])) else .error .notFound

/-- What the path leads to. -/
def locate (t : Tree) (p : String) : Except Refusal Target :=
  if '\x00' ∈ p.toList then .error .nulInName
  else if p = "" then .error .notFound
  else if longestPath < p.utf8ByteSize then .error .nameTooLong
  else t.walk (if Path.isAbsolute p then [] else t.home) (Path.components p)

/-! ## Requests -/

def read (t : Tree) (p : String) : Except Refusal (List UInt8) := do
  match ← t.locate p with
  | .found place (.file contents) =>
    match t.device.unreadable t.asked place with
    | some reason => .error (.device reason)
    | none => .ok contents
  | .found _ .directory => .error .isDirectory
  | .vacant .. => .error .notFound

def isFile (t : Tree) (p : String) : Bool :=
  match t.locate p with
  | .ok (.found _ (.file _)) => true
  | _ => false

def isDirectory (t : Tree) (p : String) : Bool :=
  match t.locate p with
  | .ok (.found _ .directory) => true
  | _ => false

/-- What goes wrong with the change that is asked for next. -/
def mishap (t : Tree) : Option Mishap :=
  t.device.mishap t.asked

/-- The tree when the device has been asked once more. -/
def next (t : Tree) : Tree :=
  { t with asked := t.asked + 1 }

/-- Asks for a change that a device makes as a whole or not at all. -/
def change (t : Tree) (changed : Except Refusal Tree) : Except Refusal Unit × Tree :=
  match changed, t.mishap with
  | .error r, _ => (.error r, t.next)
  | .ok _, some m => (.error (.device m.reason), t.next)
  | .ok t', none => (.ok (), t'.next)

/-- The tree with one more directory, in one that stands already. -/
def withDir (t : Tree) (p : String) : Except Refusal Tree := do
  match ← t.locate p with
  | .found .. => .error .alreadyThere
  | .vacant place _ => .ok (t.put place .directory)

def makeDir (t : Tree) (p : String) : Except Refusal Unit × Tree :=
  t.change (t.withDir p)

/-- A directory that could not be made does no harm where one stands. -/
def orStands (p : String) : Except Refusal Unit × Tree → Except Refusal Unit × Tree
  | (.ok (), t) => (.ok (), t)
  | (.error r, t) => (if t.isDirectory p then .ok () else .error r, t)

/-- Makes a directory, after those above it where one of them is missing. -/
def makeDirs (t : Tree) (p : String) : Except Refusal Unit × Tree :=
  if p = "" then (.ok (), t)
  else
    match t.makeDir p with
    | (.error .notFound, t') =>
      match _h : Path.parent? p with
      | none => (.error .notFound, t')
      | some above =>
        match t'.makeDirs above with
        | (.ok (), t'') => orStands p (t''.makeDir p)
        | failed => failed
    | made => orStands p made
  termination_by p.toList.length
  decreasing_by exact Path.length_parent?_lt _h

/-- Where a file with that path goes. -/
def fileAt (t : Tree) (p : String) : Except Refusal Location := do
  match ← t.locate p with
  | .found place (.file _) | .vacant place false => .ok place
  | .found _ .directory | .vacant _ true => .error .isDirectory

/-- Makes the file, or empties the one that stands there, and fills it as far as the device goes
along. -/
def write (t : Tree) (p : String) (contents : List UInt8) : Except Refusal Unit × Tree :=
  match t.fileAt p, t.mishap with
  | .error r, _ => (.error r, t.next)
  | .ok _, some (.refused reason) => (.error (.device reason), t.next)
  | .ok place, some (.brokenOff n reason) =>
    if n < contents.length then
      (.error (.device reason), (t.put place (.file (contents.take n))).next)
    else (.ok (), (t.put place (.file contents)).next)
  | .ok place, none => (.ok (), (t.put place (.file contents)).next)

/-- The tree with the file at `p` moved to `q`. -/
def moved (t : Tree) (p q : String) : Except Refusal Tree := do
  match ← t.locate p with
  | .found source (.file contents) =>
    match ← t.locate q with
    | .found place (.file _) | .vacant place false =>
      .ok ((t.cut source).put place (.file contents))
    | .found _ .directory => .error .isDirectory
    | .vacant _ true => .error .notDirectory
  | .found _ .directory => .error .isDirectory
  | .vacant .. => .error .notFound

def rename (t : Tree) (p q : String) : Except Refusal Unit × Tree :=
  t.change (t.moved p q)

end Tree

/-- The answer to a request, with the reason as a text. -/
def answer : Except Refusal Unit × Tree → Except String Unit × Tree
  | (r, t) => (r.mapError Refusal.reason, t)

instance : Disk (StateM Tree) where
  read p t := ((t.read p).mapError Refusal.reason, t)
  isFile p t := (t.isFile p, t)
  makeDirs p t := answer (t.makeDirs p)
  write p contents t := answer (t.write p contents)
  rename p q t := answer (t.rename p q)

end AdaGlue.Disk
