import Arbiter.Decimal.Shortest
/-!
# How a double is written

The digits are those of `Arbiter.Decimal.Shortest`; a `Layout` decides where the point stands,
when an exponent is used and how it looks.  Each output format of the project has one layout.
-/

namespace Arbiter.Decimal

/-- The decisions of one output format. -/
structure Layout where
  /-- Below this power of the leading digit an exponent is used. -/
  plainFrom : Int
  /-- From this power of the leading digit on an exponent is used. -/
  plainBelow : Int
  /-- Whole numbers are written with a point and a zero. -/
  pointZero : Bool
  /-- A positive exponent is written with its sign. -/
  plusInExponent : Bool
  /-- Which of two equally near decimals is taken. -/
  tie : Tie
  /-- The text of what is not a number. -/
  nan : String
  /-- The text of infinity, without its sign. -/
  infinity : String

/-- The digits with a point after the first `n` of them; zeros fill up on either side. -/
def placePoint (ds : List Char) (n : Int) (pointZero : Bool) : List Char :=
  if n ≤ 0 then '0' :: '.' :: List.replicate (-n).toNat '0' ++ ds
  else
    let n := n.toNat
    if ds.length ≤ n then
      ds ++ List.replicate (n - ds.length) '0' ++ (if pointZero then ['.', '0'] else [])
    else ds.take n ++ '.' :: ds.drop n

/-- One digit, the point and the others, and the exponent of the first. -/
def withExponent (ds : List Char) (e : Int) (plus : Bool) : List Char :=
  let body := match ds with
    | [] => []
    | [d] => [d]
    | d :: rest => d :: '.' :: rest
  let sign := if e < 0 then ['-'] else if plus then ['+'] else []
  body ++ 'e' :: sign ++ Nat.toDigits 10 e.natAbs

/-- The text of a selected decimal, without a sign. -/
def Layout.write (l : Layout) (d : Digits) : List Char :=
  if d.digits = 0 then if l.pointZero then ['0', '.', '0'] else ['0']
  else
    let ds := Nat.toDigits 10 d.digits
    let lead := d.exponent + ds.length - 1
    if l.plainFrom ≤ lead ∧ lead < l.plainBelow then placePoint ds (lead + 1) l.pointZero
    else withExponent ds lead l.plusInExponent

/-- The text of a double. -/
def Layout.text (l : Layout) (x : Float) : String :=
  if x.isNaN then l.nan
  else
    let size := if x.isInf then l.infinity.toList else l.write (shortest l.tie x)
    String.ofList (if isNegative x then '-' :: size else size)

/-- For messages: always positional, no exponent, and a whole number without a point. -/
def plain : Layout where
  plainFrom := -400
  plainBelow := 400
  pointZero := false
  plusInExponent := false
  tie := .up
  nan := "NaN"
  infinity := "inf"

/-- One digit before the point and always an exponent. -/
def scientific : Layout where
  plainFrom := 0
  plainBelow := 0
  pointZero := false
  plusInExponent := false
  tie := .up
  nan := "NaN"
  infinity := "inf"

example : plain.text 1.0e16 = "10000000000000000" := by decide +kernel
example : plain.text (-0.00001) = "-0.00001" := by decide +kernel
example : scientific.text 1.5e300 = "1.5e300" := by decide +kernel

end Arbiter.Decimal
