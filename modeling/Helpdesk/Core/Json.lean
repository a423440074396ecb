/-! # JSON values

What a JSON body or a JSONB column decodes to in Python. An object keeps its items in order, as a
`dict` does; a number that is not an integer is kept as its literal, since nothing computes with
it. -/

namespace Helpdesk

inductive Json where
  | null
  | bool (b : Bool)
  | int (n : Int)
  | float (literal : String)
  | str (s : String)
  | arr (items : List Json)
  | obj (items : List (String × Json))

/-- The items of a `dict`. -/
abbrev JsonObject := List (String × Json)

namespace Json

/-- `iter(v)`: a list's items, a string's characters, a dict's keys; nothing else is iterable. -/
def iter : Json → Option (List Json)
  | .arr items => some items
  | .str s => some (s.toList.map fun c => .str (String.ofList [c]))
  | .obj items => some (items.map fun item => .str item.1)
  | .null | .bool _ | .int _ | .float _ => none

/-! ## Encoding

`json.dumps` with its defaults: ASCII only, `", "` and `": "` as separators. The recursion goes through the
lists of items and of members, so it is one of three functions. -/

/-- `\uXXXX` for a 16-bit code unit. -/
def unicodeEscape (unit : Nat) : List Char :=
  '\\' :: 'u' :: [4096, 256, 16, 1].map fun place => Nat.digitChar (unit / place % 16)

/-- A character inside a JSON string; beyond ASCII, by its UTF-16 code units. -/
def escapeChar (c : Char) : List Char :=
  let n := c.toNat
  if c = '"' then ['\\', '"']
  else if c = '\\' then ['\\', '\\']
  else if c = '\n' then ['\\', 'n']
  else if c = '\r' then ['\\', 'r']
  else if c = '\t' then ['\\', 't']
  else if n = 8 then ['\\', 'b']
  else if n = 12 then ['\\', 'f']
  else if 32 ≤ n ∧ n ≤ 126 then [c]
  else if n < 0x10000 then unicodeEscape n
  else unicodeEscape (0xD800 + (n - 0x10000) / 1024) ++ unicodeEscape (0xDC00 + (n - 0x10000) % 1024)

/-- A JSON string. -/
def quote (s : String) : String :=
  "\"" ++ String.ofList (s.toList.flatMap escapeChar) ++ "\""

mutual

/-- `json.dumps(v)`. -/
def dumps : Json → String
  | .null => "null"
  | .bool b => if b then "true" else "false"
  | .int n => toString n
  | .float literal => literal
  | .str s => quote s
  | .arr items => "[" ++ ", ".intercalate (dumpsItems items) ++ "]"
  | .obj items => "\x7b" ++ ", ".intercalate (dumpsMembers items) ++ "\x7d"

def dumpsItems : List Json → List String
  | [] => []
  | v :: rest => dumps v :: dumpsItems rest

def dumpsMembers : List (String × Json) → List String
  | [] => []
  | (key, v) :: rest => (quote key ++ ": " ++ dumps v) :: dumpsMembers rest

end

end Json

end Helpdesk
