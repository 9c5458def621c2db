import Combinatory.Number.Power

/-!
# Floating-point values as exact dyadic numbers

A finite double is `±m · 2 ^ e` with integers `m` and `e`; this module reads those from the
bits of a `Float`, so that comparisons with ratios of natural numbers are done exactly in
natural-number arithmetic instead of in floating point.
-/

namespace Combinatory

/-- A finite binary floating-point value `(-1) ^ negative * mantissa * 2 ^ exponent`, or a
value that is not finite. -/
inductive Dyadic where
  | finite (negative : Bool) (mantissa : Nat) (exponent : Int)
  | nonFinite (isNaN : Bool) (negative : Bool)
  deriving DecidableEq, Repr, Inhabited

namespace Dyadic

/-- Reads a double from its bits. -/
def ofFloat (x : Float) : Dyadic :=
  let bits : Nat := x.toBits.toNat
  let negative := bits / 2 ^ 63 = 1
  let expBits : Nat := bits / 2 ^ 52 % 2 ^ 11
  let frac : Nat := bits % 2 ^ 52
  if expBits = 2047 then .nonFinite (frac ≠ 0) negative
  else if expBits = 0 then .finite negative frac (-1074)
  else .finite negative (frac + 2 ^ 52) ((expBits : Int) - 1075)

/-- Whether `num / den ≥ x`, exactly (a NaN is never reached). -/
def ratioAtLeast (num den : Nat) (x : Dyadic) : Bool :=
  match x with
  | .nonFinite isNaN negative => !isNaN && negative
  | .finite negative m e =>
    if negative then true
    else if e ≥ 0 then num ≥ m * 2 ^ e.toNat * den
    else num * 2 ^ (-e).toNat ≥ m * den

/-- Whether `x < num / den`, exactly (a NaN is never below anything). -/
def below (x : Dyadic) (num den : Nat) : Bool :=
  match x with
  | .nonFinite isNaN negative => !isNaN && negative
  | .finite negative m e =>
    if negative then m ≠ 0 ∨ num ≠ 0
    else if e ≥ 0 then m * 2 ^ e.toNat * den < num
    else m * den < num * 2 ^ (-e).toNat

end Dyadic

end Combinatory
