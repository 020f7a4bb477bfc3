-- Small letters, and texts in quotes. A capital sigma at the end of a word
-- becomes the closing form of the small letter.
import StagedFiles.Text.CaseTable
import StagedFiles.Text.PrintTable

namespace StagedFiles.Letter

def within (ranges : List (Nat × Nat)) (c : Char) : Bool :=
  ranges.any fun r => r.1 ≤ c.toNat && c.toNat ≤ r.2

def isCased (c : Char) : Bool := within casedRanges c

def isPassedOver (c : Char) : Bool := within passedOverRanges c

/-- The character has a printed form of its own. -/
def isPrinted (c : Char) : Bool := !within unprintedRanges c

/-- The character joins the one before it. -/
def isExtending (c : Char) : Bool := within extendingRanges c

/-- The character fills a place and shows nothing. -/
def isFiller (c : Char) : Bool := within fillerRanges c

/-! ## Small letters -/

/-- The small letter of a capital; every other character stands for itself. -/
def small (c : Char) : Char :=
  if c.toNat < 128 then c.toLower
  else
    let inRun (r : Nat × Nat × Nat × Int) : Bool :=
      r.1 ≤ c.toNat && c.toNat ≤ r.2.1 && (c.toNat - r.1) % r.2.2.1 == 0
    match smallLetterRuns.find? inRun with
    | some r => Char.ofNat ((c.toNat : Int) + r.2.2.2).toNat
    | none => c

/-- The nearest character that is not passed over has case. -/
def meetsCased (cs : List Char) : Bool :=
  match cs.dropWhile isPassedOver with
  | c :: _ => isCased c
  | [] => false

/-- The text in small letters, with the characters before it in reverse. -/
def lowerFrom (before : List Char) : List Char → List Char
  | [] => []
  | c :: rest =>
    let here :=
      if c = 'Σ' then (if meetsCased before && !meetsCased rest then ['ς'] else ['σ'])
      else if c = 'İ' then ['i', '\u0307']
      else [small c]
    here ++ lowerFrom (c :: before) rest

def lower (s : String) : String := String.ofList (lowerFrom [] s.toList)

/-! ## Texts in quotes -/

/-- A character as it stands inside double quotes. A single quote stands for
itself there. -/
def escape (c : Char) : List Char :=
  if c = '\x00' then ['\x5c', '0']
  else if c = '\t' then ['\x5c', 't']
  else if c = '\r' then ['\x5c', 'r']
  else if c = '\n' then ['\x5c', 'n']
  else if c = '\x5c' then ['\x5c', '\x5c']
  else if c = '\x22' then ['\x5c', '\x22']
  else if isExtending c || isFiller c || !isPrinted c then
    ['\x5c', 'u', '\x7b'] ++ Nat.toDigits 16 c.toNat ++ ['\x7d']
  else [c]

/-- A text in double quotes. -/
def quote (s : String) : String := "\"" ++ String.ofList (s.toList.flatMap escape) ++ "\""

end StagedFiles.Letter
