-- Values written as JSON over several lines, two blanks for each level.
import StagedFiles.Text.Letter

namespace StagedFiles

inductive JsonValue where
  | null
  | number (n : Int)
  | text (s : String)
  | list (items : List JsonValue)
  | record (fields : List (String × JsonValue))

namespace JsonValue

/-! ## Texts -/

/-- A character as it stands in a JSON text. -/
def escape (c : Char) : List Char :=
  if c = '\x22' then ['\x5c', '\x22']
  else if c = '\x5c' then ['\x5c', '\x5c']
  else if c = '\x08' then ['\x5c', 'b']
  else if c = '\x0c' then ['\x5c', 'f']
  else if c = '\n' then ['\x5c', 'n']
  else if c = '\r' then ['\x5c', 'r']
  else if c = '\t' then ['\x5c', 't']
  else if c.toNat < 0x20 then
    ['\x5c', 'u', '0', '0'] ++ (if c.toNat < 0x10 then ['0'] else ['1']) ++
      Nat.toDigits 16 (c.toNat % 16)
  else [c]

def quote (s : String) : String := "\"" ++ String.ofList (s.toList.flatMap escape) ++ "\""

/-! ## Values -/

def margin (depth : Nat) : String := String.ofList (List.replicate (2 * depth) ' ')

/-- Items in brackets, one a line; none of them take no line. -/
def enclose (left right : String) (depth : Nat) (items : List String) : String :=
  if items.isEmpty then left ++ right
  else
    left ++ "\n" ++ String.intercalate ",\n" (items.map (margin (depth + 1) ++ ·)) ++ "\n" ++
      margin depth ++ right

mutual

/-- The value at a depth. -/
def pretty (depth : Nat) : JsonValue → String
  | .null => "null"
  | .number n => toString n
  | .text s => quote s
  | .list items => enclose "[" "]" depth (prettyItems (depth + 1) items)
  | .record fields => enclose "\x7b" "\x7d" depth (prettyFields (depth + 1) fields)

def prettyItems (depth : Nat) : List JsonValue → List String
  | [] => []
  | v :: vs => pretty depth v :: prettyItems depth vs

def prettyFields (depth : Nat) : List (String × JsonValue) → List String
  | [] => []
  | (k, v) :: fs => (quote k ++ ": " ++ pretty depth v) :: prettyFields depth fs

end

end JsonValue

end StagedFiles
