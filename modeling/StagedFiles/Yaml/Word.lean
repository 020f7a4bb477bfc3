-- What a word in a document stands for: nothing, a truth value, a whole
-- number, a decimal number, or a text.

namespace StagedFiles.Yaml.Word

def isNull (w : String) : Bool := ["null", "Null", "NULL", "~"].contains w

def bool? (w : String) : Option Bool :=
  if ["true", "True", "TRUE"].contains w then some true
  else if ["false", "False", "FALSE"].contains w then some false
  else none

/-! ## Whole numbers -/

/-- The value of a digit in a base of at most sixteen. -/
def digit? (base : Nat) (c : Char) : Option Nat :=
  let v :=
    if c.isDigit then some (c.toNat - '0'.toNat)
    else if 'a' ≤ c ∧ c ≤ 'f' then some (c.toNat - 'a'.toNat + 10)
    else if 'A' ≤ c ∧ c ≤ 'F' then some (c.toNat - 'A'.toNat + 10)
    else none
  v.filter (· < base)

/-- The number that digits spell; there has to be one. -/
def digits? (base : Nat) (cs : List Char) : Option Nat :=
  if cs.isEmpty then none else cs.foldlM (fun n c => (digit? base c).map (n * base + ·)) 0

/-- Digits behind a leading zero are a text and not a number. -/
def isPadded (cs : List Char) : Bool :=
  match cs with
  | '0' :: rest => !rest.isEmpty && rest.all Char.isDigit
  | _ => false

/-- Digits with the letter of their base in front, or decimal ones. -/
def magnitude? (cs : List Char) : Option Nat :=
  match cs with
  | '0' :: 'x' :: rest => digits? 16 rest
  | '0' :: 'o' :: rest => digits? 8 rest
  | '0' :: 'b' :: rest => digits? 2 rest
  | cs => if isPadded cs then none else digits? 10 cs

/-- A whole number without a minus sign. -/
def nat? (w : String) : Option Nat :=
  match w.toList with
  | '+' :: rest => magnitude? rest
  | cs => magnitude? cs

/-- The greatest whole number of a counter. -/
def maxCount : Nat := 0xFFFFFFFFFFFFFFFF

/-- A whole number that a counter holds. -/
def count? (w : String) : Option Nat := (nat? w).filter (· ≤ maxCount)

/-- A whole number, with a sign or without. -/
def int? (w : String) : Option Int :=
  match w.toList with
  | '-' :: rest => (magnitude? rest).map fun n => -(n : Int)
  | _ => (nat? w).map Int.ofNat

/-! ## Decimal numbers -/

/-- The parts of a decimal number: its digits and the power of ten behind them. -/
structure Decimal where
  negative : Bool
  digits : List Char
  exponent : Int

/-- A power of ten, behind its letter. -/
def exponent? (cs : List Char) : Option Int :=
  match cs with
  | '-' :: ds => (digits? 10 ds).map fun n => -(n : Int)
  | '+' :: ds => (digits? 10 ds).map Int.ofNat
  | ds => (digits? 10 ds).map Int.ofNat

/-- Digits with at most one point among them and at most one power behind. -/
def decimal? (negative : Bool) (cs : List Char) : Option Decimal := do
  let whole := cs.takeWhile Char.isDigit
  let rest := cs.drop whole.length
  let (fraction, rest) : List Char × List Char :=
    match rest with
    | '.' :: rest => (rest.takeWhile Char.isDigit, rest.dropWhile Char.isDigit)
    | rest => ([], rest)
  if whole.isEmpty && fraction.isEmpty then none
  let power ←
    match rest with
    | [] => some 0
    | 'e' :: ds | 'E' :: ds => exponent? ds
    | _ => none
  pure ⟨negative, whole ++ fraction, power - fraction.length⟩

/-- The nearest double; none past the greatest one. -/
def Decimal.toFloat? (d : Decimal) : Option Float :=
  let ds := d.digits.dropWhile (· = '0')
  let n := ds.foldl (fun n c => n * 10 + (c.toNat - '0'.toNat)) 0
  let size : Int := ds.length + d.exponent
  let x : Float :=
    if n = 0 ∨ size < -400 then 0.0
    else if 400 < size then 1.0 / 0.0
    else if 0 ≤ d.exponent then Float.ofScientific (n * Nat.pow 10 d.exponent.toNat) false 0
    else Float.ofScientific n true (-d.exponent).toNat
  if x.isFinite then some (if d.negative then -x else x) else none

/-- A decimal number, an infinity or the value that is no number. -/
def float? (w : String) : Option Float :=
  let infinite := [".inf", ".Inf", ".INF"]
  if [".nan", ".NaN", ".NAN"].contains w then some (Float.ofBits 0x7FF8000000000000)
  else if infinite.contains w ∨ infinite.contains (String.ofList (w.toList.drop 1)) ∧
      w.toList.head? = some '+' then some (1.0 / 0.0)
  else if (infinite.map ("-" ++ ·)).contains w then some (-1.0 / 0.0)
  else
    match w.toList with
    | '+' :: '-' :: _ | '+' :: '+' :: _ => none
    | '+' :: cs => (decimal? false cs).bind Decimal.toFloat?
    | '-' :: cs => (decimal? true cs).bind Decimal.toFloat?
    | cs => (decimal? false cs).bind Decimal.toFloat?

end StagedFiles.Yaml.Word
