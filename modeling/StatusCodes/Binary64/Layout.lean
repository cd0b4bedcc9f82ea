import StatusCodes.Binary64.Shortest

/-!
# How a number is written out

A number is written with a point and at least one digit on each side of it while its leading
digit is near the point, and with an exponent otherwise.
-/

namespace StatusCodes.Binary64

/-- For which exponents of the leading digit a number is written without an exponent. -/
structure Layout where
  plainFrom : Int
  plainBelow : Int

/-- Numbers from 0.0001 up to, but not including, 10 to the 16th are written without an
exponent. -/
def layout : Layout where
  plainFrom := -4
  plainBelow := 16

/-- The text of a positive decimal. -/
def Layout.render (l : Layout) (digits : Nat) (exponent : Int) : String :=
  let ds := Nat.toDigits 10 digits
  let leading := (ds.length : Int) - 1 + exponent
  if l.plainFrom ≤ leading ∧ leading < l.plainBelow then
    if 0 ≤ exponent then
      String.ofList (ds ++ List.replicate exponent.toNat '0') ++ ".0"
    else if 0 ≤ leading then
      let whole := leading.toNat + 1
      String.ofList (ds.take whole ++ '.' :: ds.drop whole)
    else
      String.ofList ('0' :: '.' :: List.replicate (-leading - 1).toNat '0' ++ ds)
  else
    let fraction := if ds.length = 1 then [] else '.' :: ds.drop 1
    String.ofList (ds.take 1 ++ fraction) ++ s!"e{leading}"

/-- The text of a number. -/
def text (x : Binary64) : String :=
  let sign := if x.isNegative then "-" else ""
  let m := x.magnitude
  if m = 0 then sign ++ "0.0"
  else if m = infinity then sign ++ "inf"
  else if infinity < m then "NaN"
  else
    let (digits, exponent) := shortest m
    sign ++ layout.render digits exponent

end StatusCodes.Binary64
