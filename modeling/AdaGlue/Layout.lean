/-
Indented text. A source text is described by edits, one for each line and each change of the
indentation; a buffer carries them out. Buffers nest by plain concatenation of their texts.
-/

namespace AdaGlue

/-- One step in the making of an indented text. -/
inductive Edit where
  | line (text : String)
  | blank
  | indent
  | dedent
  deriving DecidableEq, Repr

/-- The text written so far and the number of levels the next line is indented by. -/
structure Buffer where
  text : String := ""
  depth : Nat := 0
  deriving DecidableEq, Repr

namespace Buffer

/-- One level of indentation. -/
def step : String := "   "

def margin (depth : Nat) : String :=
  String.join (List.replicate depth step)

/-- A line stands at the current depth; an empty one has no margin. -/
def line (b : Buffer) (s : String) : Buffer :=
  if s.isEmpty then { b with text := b.text ++ "\n" }
  else { b with text := b.text ++ margin b.depth ++ s ++ "\n" }

def blank (b : Buffer) : Buffer :=
  { b with text := b.text ++ "\n" }

def indent (b : Buffer) : Buffer :=
  { b with depth := b.depth + 1 }

/-- Goes back one level; at the left margin it stays there. -/
def dedent (b : Buffer) : Buffer :=
  { b with depth := b.depth - 1 }

/-- The text of `other` as it is, whatever the depth of either. -/
def append (b other : Buffer) : Buffer :=
  { b with text := b.text ++ other.text }

def isEmpty (b : Buffer) : Bool :=
  b.text.isEmpty

def apply (b : Buffer) : Edit → Buffer
  | .line s => b.line s
  | .blank => b.blank
  | .indent => b.indent
  | .dedent => b.dedent

def run (b : Buffer) (edits : List Edit) : Buffer :=
  edits.foldl apply b

@[simp] theorem run_nil (b : Buffer) : b.run [] = b := rfl

@[simp] theorem run_cons (b : Buffer) (e : Edit) (edits : List Edit) :
    b.run (e :: edits) = (b.apply e).run edits := rfl

@[simp] theorem run_append (b : Buffer) (front back : List Edit) :
    b.run (front ++ back) = (b.run front).run back := by
  simp [run]

end Buffer

/-- The text that the edits make, from the left margin on. -/
def render (edits : List Edit) : String :=
  (Buffer.run {} edits).text

end AdaGlue
