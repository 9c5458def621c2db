import Combinatory.Number.Dyadic

/-!
# Decimal reading and writing of doubles

`Decimal.toFloat` rounds to the nearest double, ties to even, in exact arithmetic;
`Decimal.shortest` finds the fewest digits that read back as a double, and `Decimal.formatG`
writes them in the `%g` style.
-/

namespace Combinatory

namespace Decimal

/-- Whether `num / den ≥ 2 ^ b`. -/
def atLeastPow2 (num den : Nat) (b : Int) : Bool :=
  if b ≥ 0 then num ≥ den * 2 ^ b.toNat else num * 2 ^ (-b).toNat ≥ den

/-- `num / den` rounded to the nearest natural number, ties to even. -/
def roundHalfEven (num den : Nat) : Nat :=
  let q := num / den
  let r := num % den
  if 2 * r > den ∨ (2 * r = den ∧ q % 2 = 1) then q + 1 else q

/-- The bits of the double nearest to the positive ratio `num / den`, or `none` when the ratio
rounds past the largest double. -/
def nearestBits (num den : Nat) : Option Nat :=
  if num = 0 then some 0
  else
    let b0 : Int := (num.log2 : Int) - den.log2
    let b := if atLeastPow2 num den b0 then b0 else b0 - 1
    let e := max (b - 52) (-1074)
    let m :=
      if e ≥ 0 then roundHalfEven num (den * 2 ^ e.toNat)
      else roundHalfEven (num * 2 ^ (-e).toNat) den
    let (m, e) := if m = 2 ^ 53 then (2 ^ 52, e + 1) else (m, e)
    if e + 52 > 1023 then none
    else if m < 2 ^ 52 then some m
    else some ((e + 1075).toNat * 2 ^ 52 + (m - 2 ^ 52))

/-- The double nearest to `(-1) ^ negative · digits · 10 ^ exponent`, or `none` when its
magnitude is too large; values too small for the least subnormal become zero. -/
def toFloat (negative : Bool) (digits : Nat) (exponent : Int) : Option Float :=
  let sign : Nat := if negative then 2 ^ 63 else 0
  let count : Int := (Nat.toDigits 10 digits).length
  if digits = 0 ∨ count + exponent < -330 then some (Float.ofBits (UInt64.ofNat sign))
  else if count + exponent > 310 then none
  else
    let (num, den) :=
      if exponent ≥ 0 then (digits * 10 ^ exponent.toNat, 1) else (digits, 10 ^ (-exponent).toNat)
    (nearestBits num den).map fun bits => Float.ofBits (UInt64.ofNat (sign + bits))

/-- The double nearest to the ratio `num / den` written with `places` decimals, rounded to
nearest with ties to even, as the fixed-point `%f` style writes it. -/
def fixedOfRatio (num den places : Nat) : String :=
  match nearestBits num den with
  | none => "+Inf"
  | some bits =>
    let expBits : Nat := bits / 2 ^ 52
    let frac : Nat := bits % 2 ^ 52
    let (m, e) : Nat × Int :=
      if expBits = 0 then (frac, -1074) else (frac + 2 ^ 52, (expBits : Int) - 1075)
    let n :=
      if e ≥ 0 then m * 2 ^ e.toNat * 10 ^ places
      else roundHalfEven (m * 10 ^ places) (2 ^ (-e).toNat)
    let whole := toString (n / 10 ^ places)
    if places = 0 then whole
    else
      let fracDigits := toString (n % 10 ^ places)
      whole ++ "." ++ String.ofList (List.replicate (places - fracDigits.length) '0') ++ fracDigits

/-- `a · 2 ^ p · 10 ^ r` as a ratio of natural numbers. -/
def scaled (a : Nat) (p r : Int) : Nat × Nat :=
  let num := a * (if p ≥ 0 then 2 ^ p.toNat else 1) * (if r ≥ 0 then 10 ^ r.toNat else 1)
  let den := (if p < 0 then 2 ^ (-p).toNat else 1) * (if r < 0 then 10 ^ (-r).toNat else 1)
  (num, den)

/-- The integers `n` with `n · 10 ^ q` in the rounding interval of `m · 2 ^ e`, whose ends are
`lo · 2 ^ (e - 2)` and `hi · 2 ^ (e - 2)`, included when `closed`: the least and the
greatest. -/
def candidates (lo hi : Nat) (e q : Int) (closed : Bool) : Nat × Nat :=
  let (ln, ld) := scaled lo (e - 2) (-q)
  let (hn, hd) := scaled hi (e - 2) (-q)
  let least := if closed then (ln + ld - 1) / ld else ln / ld + 1
  let greatest := if closed || hn % hd ≠ 0 then hn / hd else hn / hd - 1
  (least, greatest)

/-- Searches downward from the power `q` for the first power of ten with a multiple in the
interval, at most `fuel` steps. -/
def firstPower (lo hi : Nat) (e : Int) (closed : Bool) : Nat → Int → Int
  | 0, q => q
  | fuel + 1, q =>
    let (least, greatest) := candidates lo hi e q closed
    if least ≤ greatest then q else firstPower lo hi e closed fuel (q - 1)

/-- The shortest decimal `n · 10 ^ q` that reads back as the positive double `m · 2 ^ e`
(`m` and `e` as `Dyadic` gives them): the multiple of the largest power of ten in the rounding
interval that lies nearest to the double. -/
def shortest (m : Nat) (e : Int) : Nat × Int :=
  let lowerGap := if m = 2 ^ 52 ∧ e > -1074 then 1 else 2
  let lo := 4 * m - lowerGap
  let hi := 4 * m + 2
  let closed := m % 2 = 0
  let bound : Int := ((4 * m + 2).log2 : Int) + 1 + (e - 2)
  let start := bound * 30103 / 100000 + 3
  let q := firstPower lo hi e closed 64 start
  let (least, greatest) := candidates lo hi e q closed
  let (vn, vd) := scaled (4 * m) (e - 2) (-q)
  let central := roundHalfEven vn vd
  (min (max central least) greatest, q)

/-- Two or more decimal digits of an exponent. -/
def exponentDigits (n : Nat) : String :=
  if n < 10 then "0" ++ toString n else toString n

/-- The digit at index `i` of `ds`, or `0` outside it. -/
def digitAt (ds : List Char) (i : Int) : Char :=
  if i < 0 then '0' else ds.getD i.toNat '0'

/-- Writes a double with the fewest digits that read back as it, in the `%g` style. -/
def formatG (x : Float) : String :=
  match Dyadic.ofFloat x with
  | .nonFinite isNaN negative => if isNaN then "NaN" else if negative then "-Inf" else "+Inf"
  | .finite negative m e =>
    let sign := if negative then "-" else ""
    if m = 0 then sign ++ "0"
    else
      let (n, q) := shortest m e
      let ds := Nat.toDigits 10 n
      let nd : Int := ds.length
      let dp := nd + q
      let exp := dp - 1
      if exp < -4 ∨ exp ≥ 6 then
        let mantissa := match ds with
          | [] => "0"
          | d :: [] => String.singleton d
          | d :: rest => String.ofList (d :: '.' :: rest)
        sign ++ mantissa ++ "e" ++ (if exp < 0 then "-" else "+") ++ exponentDigits exp.natAbs
      else
        let whole :=
          if dp > 0 then String.ofList ((List.range dp.toNat).map fun (i : Nat) => digitAt ds i) else "0"
        let places := max (nd - dp) 0
        let frac :=
          if places > 0 then
            "." ++ String.ofList ((List.range places.toNat).map fun (i : Nat) => digitAt ds (dp + i))
          else ""
        sign ++ whole ++ frac

end Decimal

end Combinatory
