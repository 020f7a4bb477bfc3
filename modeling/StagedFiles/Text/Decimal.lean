-- The shortest decimal of a double, and how it is laid out. The digits are
-- the fewest that read back as the same double; among those the nearest one
-- stands, and of two equally near the upper one.

namespace StagedFiles.Decimal

/-! ## A double as an exact number -/

/-- A finite double without its sign, `m * 2 ^ q`. -/
structure Binary where
  m : Nat
  q : Int
  /-- The gap to the double below is half the gap to the one above. -/
  narrowBelow : Bool

/-- The bits of a finite double. -/
def Binary.ofBits (b : UInt64) : Binary :=
  let e := ((b >>> 52) &&& 0x7FF).toNat
  let f := (b &&& 0xFFFFFFFFFFFFF).toNat
  if e = 0 then ⟨f, -1074, false⟩
  else ⟨0x10000000000000 + f, (e : Int) - 1075, f = 0 ∧ 1 < e⟩

/-- A decimal number, `digits * 10 ^ exp`. -/
structure Number where
  digits : Nat
  exp : Int
  deriving DecidableEq, Repr

/-- Compares `a * 10 ^ i` with `n * 2 ^ j`. -/
def compareScaled (a : Nat) (i : Int) (n : Nat) (j : Int) : Ordering :=
  compare ((a * Nat.pow 10 i.toNat) <<< (-j).toNat) ((n * Nat.pow 10 (-i).toNat) <<< j.toNat)

/-- The decimal lies among the reals that round to the double: between the
two midpoints, and on one only when `m` is even. -/
def Binary.readsBack (x : Binary) (d : Number) : Bool :=
  let low := if x.narrowBelow then 4 * x.m - 1 else 4 * x.m - 2
  let high := 4 * x.m + 2
  let closed := x.m % 2 = 0
  let above := compareScaled d.digits d.exp low (x.q - 2)
  let below := compareScaled d.digits d.exp high (x.q - 2)
  (above = .gt ∨ (closed ∧ above = .eq)) ∧ (below = .lt ∨ (closed ∧ below = .eq))

/-! ## The search for the digits -/

/-- The least `k` with `m * 2 ^ q < 10 ^ k`, for `m ≠ 0`, from a guess that
is at most a few steps off. -/
def Binary.scale (x : Binary) : Int :=
  let bits := (Nat.log2 x.m : Int) + x.q
  let guess := (bits * 30103) / 100000
  let fits (k : Int) : Bool := compareScaled 1 k x.m x.q = .gt
  let tries := [guess - 2, guess - 1, guess, guess + 1, guess + 2, guess + 3]
  (tries.find? fits).getD (guess + 4)

/-- The double divided by `10 ^ k`, rounded down. -/
def Binary.quotient (x : Binary) (k : Int) : Nat :=
  ((x.m * Nat.pow 10 (-k).toNat) <<< x.q.toNat) / (Nat.pow 10 k.toNat <<< (-x.q).toNat)

/-- The decimal with `n` digits that reads back, if one of the two next to
the double does; of two the nearer, and the upper one when both are as near. -/
def Binary.withDigits? (x : Binary) (k : Int) (n : Nat) : Option Number :=
  let exp := k - n
  let low : Number := ⟨x.quotient exp, exp⟩
  let high : Number := ⟨low.digits + 1, exp⟩
  match x.readsBack low, x.readsBack high with
  | true, false => some low
  | false, true => some high
  | false, false => none
  | true, true =>
    if compareScaled (low.digits + high.digits) exp (2 * x.m) x.q = .gt then some low
    else some high

/-- The number without its closing zeros. -/
def Number.strip (d : Number) : Nat → Number
  | 0 => d
  | n + 1 =>
    if d.digits ≠ 0 ∧ d.digits % 10 = 0 then Number.strip ⟨d.digits / 10, d.exp + 1⟩ n else d

/-- The shortest decimal that reads back. No double needs more than
seventeen digits; the exact value stands in where none was found. -/
def Binary.shortest (x : Binary) : Number :=
  if x.m = 0 then ⟨0, 0⟩
  else
    let k := x.scale
    match (List.range' 1 17).findSome? (x.withDigits? k) with
    | some d => d.strip 20
    | none =>
      if 0 ≤ x.q then ⟨x.m <<< x.q.toNat, 0⟩ else ⟨x.m * Nat.pow 5 (-x.q).toNat, x.q⟩

/-! ## The layout -/

/-- What a format decides about a finite number. -/
structure Format where
  /-- Leading exponents from here on are written with a plain point. -/
  plainFrom : Int
  /-- Leading exponents below here are written with a plain point. -/
  plainBelow : Int
  /-- A whole number ends in `.0`. -/
  pointZero : Bool

/-- Always a plain point, and whole numbers without one. -/
def plain : Format := ⟨-400, 400, false⟩

/-- A plain point from 0.0001 up to below 10 ^ 16, and always a fraction. -/
def pointed : Format := ⟨-4, 16, true⟩

def zeros (n : Nat) : String := String.ofList (List.replicate n '0')

/-- The number under a format. -/
def Format.layout (f : Format) (d : Number) : String :=
  let ds := toString d.digits
  let lead : Int := d.exp + ds.length - 1
  if d.digits = 0 then (if f.pointZero then "0.0" else "0")
  else if f.plainFrom ≤ lead ∧ lead < f.plainBelow then
    if 0 ≤ d.exp then ds ++ zeros d.exp.toNat ++ (if f.pointZero then ".0" else "")
    else if 0 ≤ lead then
      let whole := ds.toList.take (lead.toNat + 1)
      let rest := ds.toList.drop (lead.toNat + 1)
      String.ofList whole ++ "." ++ String.ofList rest
    else "0." ++ zeros (-lead - 1).toNat ++ ds
  else
    let rest := String.ofList (ds.toList.drop 1)
    let point := if rest.isEmpty then "" else "."
    String.ofList (ds.toList.take 1) ++ point ++ rest ++ "e" ++ toString lead

/-- A double as text. -/
def Format.render (f : Format) (x : Float) : String :=
  let b := x.toBits
  let negative := b >>> 63 = 1
  let e := (b >>> 52) &&& 0x7FF
  let fraction := b &&& 0xFFFFFFFFFFFFF
  if e = 0x7FF then
    if fraction ≠ 0 then "NaN" else if negative then "-inf" else "inf"
  else (if negative then "-" else "") ++ f.layout (Binary.ofBits b).shortest

end StagedFiles.Decimal
