/-
  The shortest decimal text of a float.

  A float stands for all real numbers that round to it: an interval that
  reaches half way to its two neighbours, ends included when the mantissa is
  even.  Its digits are those of the coarsest decimal grid with a point in the
  interval, and of the points on that grid the one nearest to the float
  (`shortest`); so no decimal with fewer digits reads back as the same float.

  `FloatLayout` says how digits and exponent are written; `floatText` writes a
  float in the layout `literalLayout`.
-/
import SqlWeave.Numeral.Binary

namespace SqlWeave.Numeral

/-- The numbers that round to `m · 2 ^ q`, in units of `2 ^ (q - 2)`. -/
structure Neighbourhood where
  /-- The float itself. -/
  centre : Nat
  /-- The lower end. -/
  low : Nat
  /-- The upper end. -/
  high : Nat
  /-- Whether the ends round to the float. -/
  closed : Bool
  deriving DecidableEq, Repr

/-- The neighbourhood of `m · 2 ^ q`; below a power of two the floats lie twice as close. -/
def neighbourhood (m : Nat) (q : Int) : Neighbourhood where
  centre := 4 * m
  low := if m = 0x10000000000000 ∧ -1074 < q then 4 * m - 1 else 4 * m - 2
  high := 4 * m + 2
  closed := m % 2 == 0

/-- Whether `x`, in the units of `n` scaled by `scale`, rounds to the float. -/
def Neighbourhood.holds (n : Neighbourhood) (scale x : Nat) : Bool :=
  if n.closed then decide (n.low * scale ≤ x ∧ x ≤ n.high * scale)
  else decide (n.low * scale < x ∧ x < n.high * scale)

/-- The point nearest to `m · 2 ^ q` on the grid of multiples of `10 ^ k`, as a multiple, if it
    rounds to the same float; a tie goes to the even multiple. -/
def gridPoint? (m : Nat) (q k : Int) : Option Nat :=
  let n := neighbourhood m q
  let q := q - 2
  let scale := Nat.pow 2 q.toNat * Nat.pow 10 (-k).toNat
  let grid := Nat.pow 2 (-q).toNat * Nat.pow 10 k.toNat
  let x := n.centre * scale
  let below := x / grid
  let above := below + 1
  let toBelow := x - below * grid
  let toAbove := above * grid - x
  let fitsBelow := n.holds scale (below * grid)
  let fitsAbove := n.holds scale (above * grid)
  if fitsBelow && fitsAbove then
    if toBelow < toAbove then some below
    else if toAbove < toBelow then some above
    else if below % 2 = 0 then some below else some above
  else if fitsBelow then some below
  else if fitsAbove then some above
  else none

/-- The exponents of the decimal grids, from the coarsest on. -/
def gridExponents : List Int := (List.range 650).map fun (i : Nat) => 309 - (i : Int)

/-- The shortest decimal `d · 10 ^ k` that reads as `m · 2 ^ q`, as `(d, k)`. -/
def shortest (m : Nat) (q : Int) : Nat × Int :=
  if m = 0 then (0, 0)
  else (gridExponents.findSome? fun k => (gridPoint? m q k).map (·, k)).getD (0, 0)

/-- How a decimal is laid out. -/
structure FloatLayout where
  /-- The least decimal exponent written without an exponent part. -/
  leastPlain : Int
  /-- The least exponent above that which needs an exponent part. -/
  boundPlain : Int
  /-- The least number of digits of an exponent part. -/
  exponentDigits : Nat
  deriving DecidableEq, Repr

/-- Numbers from a ten-thousandth up to ten to the sixteenth are written plainly, and an exponent
    has at least two digits. -/
def literalLayout : FloatLayout := ⟨-4, 16, 2⟩

/-- `cs` filled up with zeros on the left to `width` characters. -/
def padZeros (width : Nat) (cs : List Char) : List Char :=
  List.replicate (width - cs.length) '0' ++ cs

/-- The decimal `d · 10 ^ k`: plain, with at least one digit on either side of the point, or with
    one digit before the point and an exponent part. -/
def FloatLayout.write (l : FloatLayout) (d : Nat) (k : Int) : List Char :=
  let digits := Nat.toDigits 10 d
  let point := (digits.length : Int) + k
  if l.leastPlain ≤ point - 1 ∧ point - 1 < l.boundPlain then
    if point ≤ 0 then '0' :: '.' :: List.replicate (-point).toNat '0' ++ digits
    else
      let whole := digits.take point.toNat
      let rest := digits.drop point.toNat
      whole ++ List.replicate (point.toNat - digits.length) '0' ++
        '.' :: (if rest.isEmpty then ['0'] else rest)
  else
    let rest := digits.drop 1
    let e := point - 1
    digits.take 1 ++ (if rest.isEmpty then [] else '.' :: rest) ++
      'e' :: (if e < 0 then '-' else '+') ::
      padZeros l.exponentDigits (Nat.toDigits 10 e.natAbs)

/-- The text of a float. -/
def floatText (x : Float) : List Char :=
  match parts x with
  | .finite s m q =>
    let (d, k) := shortest m q
    (if s then ['-'] else []) ++ literalLayout.write d k
  | .infinite s => (if s then ['-'] else []) ++ ['i', 'n', 'f']
  | .nan => ['n', 'a', 'n']

end SqlWeave.Numeral
