/-
JSON values with ordered members, and their two written forms: on one line without blanks, and
spread over lines with two blanks for each level.
-/

namespace AdaGlue

/-- A value to be written. Members keep the order they are given in. -/
inductive Json where
  | null
  | bool (b : Bool)
  | number (n : Nat)
  | string (s : String)
  | array (items : List Json)
  | object (members : List (String × Json))
  deriving Repr

namespace Json

/-- A text or null. -/
def ofOption : Option String → Json
  | none => .null
  | some s => .string s

def ofStrings (names : List String) : Json :=
  .array (names.map .string)

/-! ## Written strings -/

/-- Two lowercase hexadecimal digits. -/
def hexByte (n : Nat) : String :=
  String.ofList [Nat.digitChar (n / 16), Nat.digitChar (n % 16)]

/-- Quotes, backslashes and control characters are escaped, the common ones by a letter; all else
stands for itself. -/
def escapeChar (c : Char) : String :=
  if c = '"' then "\\\""
  else if c = '\\' then "\\\\"
  else if c = '\x08' then "\\b"
  else if c = '\x0c' then "\\f"
  else if c = '\n' then "\\n"
  else if c = '\r' then "\\r"
  else if c = '\t' then "\\t"
  else if c.toNat < 32 then "\\u00" ++ hexByte c.toNat
  else c.toString

def escape (s : String) : String :=
  String.join (s.toList.map escapeChar)

def literal (s : String) : String :=
  "\"" ++ escape s ++ "\""

/-! ## One line -/

mutual

/-- The value on one line, without blanks. -/
def compact : Json → String
  | .null => "null"
  | .bool b => if b then "true" else "false"
  | .number n => toString n
  | .string s => literal s
  | .array items => "[" ++ compactItems items ++ "]"
  | .object members => "\x7b" ++ compactMembers members ++ "\x7d"

def compactItems : List Json → String
  | [] => ""
  | [j] => compact j
  | j :: r => compact j ++ "," ++ compactItems r

def compactMembers : List (String × Json) → String
  | [] => ""
  | [(k, j)] => literal k ++ ":" ++ compact j
  | (k, j) :: r => literal k ++ ":" ++ compact j ++ "," ++ compactMembers r

end

/-! ## Many lines -/

def margin (depth : Nat) : String :=
  String.join (List.replicate depth "  ")

mutual

/-- The value over several lines, its first line at the end of the current one. -/
def prettyAt (depth : Nat) : Json → String
  | .null => "null"
  | .bool b => if b then "true" else "false"
  | .number n => toString n
  | .string s => literal s
  | .array [] => "[]"
  | .array (j :: r) =>
    "[\n" ++ prettyItems (depth + 1) (j :: r) ++ "\n" ++ margin depth ++ "]"
  | .object [] => "\x7b\x7d"
  | .object (m :: r) =>
    "\x7b\n" ++ prettyMembers (depth + 1) (m :: r) ++ "\n" ++ margin depth ++ "\x7d"

def prettyItems (depth : Nat) : List Json → String
  | [] => ""
  | [j] => margin depth ++ prettyAt depth j
  | j :: r => margin depth ++ prettyAt depth j ++ ",\n" ++ prettyItems depth r

def prettyMembers (depth : Nat) : List (String × Json) → String
  | [] => ""
  | [(k, j)] => margin depth ++ literal k ++ ": " ++ prettyAt depth j
  | (k, j) :: r =>
    margin depth ++ literal k ++ ": " ++ prettyAt depth j ++ ",\n" ++ prettyMembers depth r

end

/-- The value over several lines, from the left margin on. -/
def pretty (j : Json) : String :=
  prettyAt 0 j

end Json

end AdaGlue
