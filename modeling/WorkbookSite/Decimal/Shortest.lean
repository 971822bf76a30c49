import WorkbookSite.Decimal.Binary64

/-!
# Shortest decimal text

`Binary64.text` writes a number with the fewest digits that read back as the
same number, always positionally.  The reals that round to a number form an
interval around it; the coarsest power of ten that has a multiple in that
interval decides how many digits are needed.  All comparisons are made on
natural numbers, after both sides are scaled.
-/

namespace WorkbookSite.Decimal

/-- A multiple of a power of ten, `digits * 10 ^ exponent`. -/
structure Scaled where
  digits : Nat
  exponent : Int
deriving DecidableEq, Repr

namespace Scaled

/-- Positional text: zeros fill the places up to the decimal point. -/
def text (scaled : Scaled) : String :=
  let digits := Nat.toDigits 10 scaled.digits
  match scaled.exponent with
  | .ofNat zeros => String.ofList (digits ++ List.replicate zeros '0')
  | .negSucc places =>
      let fraction := places + 1
      let padded := List.replicate (fraction + 1 - digits.length) '0' ++ digits
      let whole := padded.length - fraction
      String.ofList (padded.take whole ++ '.' :: padded.drop whole)

end Scaled

namespace Binary64

/-- Four times the number, and the interval that rounds to it, as numerators
over one quarter of the last place: `(low, centre, high)`.  Below a power of
two the neighbours lie twice as close. -/
def interval (number : Binary64) : Nat × Nat × Nat :=
  let centre := 4 * number.significand
  let low :=
    if number.fractionField = 0 ∧ 1 < number.exponentField then centre - 1
    else centre - 2
  (low, centre, centre + 2)

/-- The multiple of `10 ^ exponent` that reads back as `number` and is nearest
to it, if there is one.  The ends of the interval read back when the
significand is even; of two multiples equally near the larger one is taken. -/
def onGrid? (number : Binary64) (exponent : Int) : Option Scaled :=
  let scale :=
    Nat.pow 2 (number.biasedExponent - 1077) * Nat.pow 10 (-exponent).toNat
  let unit :=
    Nat.pow 2 (1077 - number.biasedExponent) * Nat.pow 10 exponent.toNat
  let (low, centre, high) := number.interval
  let reads (digits : Nat) : Bool :=
    let value := digits * unit
    if number.significand % 2 = 0 then
      low * scale ≤ value && value ≤ high * scale
    else low * scale < value && value < high * scale
  let below := centre * scale / unit
  let above := below + 1
  let nearer :=
    if 2 * (centre * scale) < (below + above) * unit then [below, above]
    else [above, below]
  (nearer.find? reads).map fun digits => ⟨digits, exponent⟩

/-- The shortest decimal that reads back as a number other than zero: the hit
on the coarsest grid, from `10 ^ 309` downwards. -/
def shortest? (number : Binary64) : Option Scaled :=
  (List.range 634).findSome? fun step : Nat =>
    number.onGrid? (309 - (step : Int))

/-- The text of a number, without exponent and without a trailing `.0`. -/
def text (number : Binary64) : String :=
  let sign := if number.isNegative then "-" else ""
  if number.significand = 0 then sign ++ "0"
  else if number.isFinite then
    match number.shortest? with
    | some scaled => sign ++ scaled.text
    | none => "NaN"
  else if number.fractionField = 0 then sign ++ "inf"
  else "NaN"

end Binary64

end WorkbookSite.Decimal
