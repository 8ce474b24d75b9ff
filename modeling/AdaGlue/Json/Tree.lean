/-
The shape of a JSON text, read as far as it goes. A text that stops being JSON still has a tree: the
place where reading stops is marked in it, so that whoever walks the tree from left to right meets
the first fault of the text first.
-/
import AdaGlue.Json.Token

namespace AdaGlue.Json

/-- A value as far as it could be read. The `stop` of an array or object is the fault found where
its next comma, its end or, in an object, its first key was due; what follows a comma is always an
item or a member. -/
inductive Tree where
  | null
  | bool (b : Bool)
  | brokenWord (f : Fault)
  | numeral (n : Numeral)
  | text (raw : RawText)
  | array (items : List Tree) (stop : Option Fault)
  | object (members : List (RawText × Tree)) (stop : Option Fault)
  /-- Nothing that starts a value. -/
  | absent (f : Fault)
  deriving Repr

/-- An array or object that is still open: what it holds so far, the last one first. -/
inductive Frame where
  | items (done : List Tree)
  | member (done : List (RawText × Tree)) (key : RawText)

/-- How far reading has come, with the open arrays and objects, the innermost one first. -/
inductive Reading where
  | value (frames : List Frame)
  | firstItem (frames : List Frame)
  | afterItem (done : List Tree) (frames : List Frame)
  | firstKey (frames : List Frame)
  | nextKey (done : List (RawText × Tree)) (frames : List Frame)
  | colon (done : List (RawText × Tree)) (key : RawText) (frames : List Frame)
  | afterMember (done : List (RawText × Tree)) (frames : List Frame)
  /-- The whole value has been read. -/
  | complete (root : Tree)
  /-- Reading has stopped, at a fault inside the value or at something behind it. -/
  | stopped (root : Tree) (trailing : Bool)

/-- What a text holds, and whether anything stands behind it. -/
structure Document where
  root : Tree
  trailing : Bool

namespace Reading

/-- Puts a finished value where it belongs. -/
def plug (v : Tree) : List Frame → Reading
  | [] => .complete v
  | .items done :: rest => .afterItem (v :: done) rest
  | .member done key :: rest => .afterMember ((key, v) :: done) rest

/-- The tree when reading stops at `v`. -/
def abandon (v : Tree) (f : Fault) : List Frame → Tree
  | [] => v
  | .items done :: rest => abandon (.array (v :: done).reverse (some f)) f rest
  | .member done key :: rest => abandon (.object ((key, v) :: done).reverse (some f)) f rest

def stopAt (v : Tree) (f : Fault) (frames : List Frame) : Reading :=
  .stopped (abandon v f frames) false

/-- A value that may carry a fault of its own. -/
def leaf (v : Tree) (stop : Option Fault) (frames : List Frame) : Reading :=
  match stop with
  | none => plug v frames
  | some f => stopAt v f frames

/-- Starts a value with a token. -/
def startValue (frames : List Frame) : Token → Reading
  | .openArray => .firstItem frames
  | .openObject => .firstKey frames
  | .null => plug .null frames
  | .bool b => plug (.bool b) frames
  | .brokenWord f => stopAt (.brokenWord f) f frames
  | .numeral n => leaf (.numeral n) n.stop frames
  | .text raw => leaf (.text raw) raw.stop frames
  | .closeArray | .closeObject | .comma | .colon | .stray =>
    stopAt (.absent .malformed) .malformed frames

/-- Takes a key, whose value comes next. -/
def startMember (done : List (RawText × Tree)) (frames : List Frame) (raw : RawText) : Reading :=
  match raw.stop with
  | none => .colon done raw frames
  | some f => stopAt (.absent f) f (.member done raw :: frames)

/-- A member is due behind a comma and there is no key. -/
def lackKey (done : List (RawText × Tree)) (frames : List Frame) (f : Fault) : Reading :=
  startMember done frames ⟨[], some f⟩

/-- Reads one token. -/
def step : Reading → Token → Reading
  | .value frames, t => startValue frames t
  | .firstItem frames, .closeArray => plug (.array [] none) frames
  | .firstItem frames, t => startValue (.items [] :: frames) t
  | .afterItem done frames, .comma => .value (.items done :: frames)
  | .afterItem done frames, .closeArray => plug (.array done.reverse none) frames
  | .afterItem done frames, _ =>
    stopAt (.array done.reverse (some .malformed)) .malformed frames
  | .firstKey frames, .closeObject => plug (.object [] none) frames
  | .firstKey frames, .text raw => startMember [] frames raw
  | .firstKey frames, _ => stopAt (.object [] (some .malformed)) .malformed frames
  | .nextKey done frames, .text raw => startMember done frames raw
  | .nextKey done frames, _ => lackKey done frames .malformed
  | .colon done key frames, .colon => .value (.member done key :: frames)
  | .colon done key frames, _ =>
    stopAt (.absent .malformed) .malformed (.member done key :: frames)
  | .afterMember done frames, .comma => .nextKey done frames
  | .afterMember done frames, .closeObject => plug (.object done.reverse none) frames
  | .afterMember done frames, _ =>
    stopAt (.object done.reverse (some .malformed)) .malformed frames
  | .complete root, _ => .stopped root true
  | .stopped root trailing, _ => .stopped root trailing

/-- What the text holds when it ends here. -/
def finish : Reading → Document
  | .value frames => ⟨abandon (.absent .truncated) .truncated frames, false⟩
  | .firstItem frames => ⟨abandon (.array [] (some .truncated)) .truncated frames, false⟩
  | .afterItem done frames =>
    ⟨abandon (.array done.reverse (some .truncated)) .truncated frames, false⟩
  | .firstKey frames => ⟨abandon (.object [] (some .truncated)) .truncated frames, false⟩
  | .nextKey done frames => finishKey done frames
  | .colon done key frames =>
    ⟨abandon (.absent .truncated) .truncated (.member done key :: frames), false⟩
  | .afterMember done frames =>
    ⟨abandon (.object done.reverse (some .truncated)) .truncated frames, false⟩
  | .complete root => ⟨root, false⟩
  | .stopped root trailing => ⟨root, trailing⟩
where
  finishKey (done : List (RawText × Tree)) (frames : List Frame) : Document :=
    ⟨abandon (.absent .truncated) .truncated (.member done ⟨[], some .truncated⟩ :: frames), false⟩

end Reading

/-- What a text holds. -/
def Document.read (bytes : List UInt8) : Document :=
  ((tokens bytes).foldl Reading.step (.value [])).finish

end AdaGlue.Json
