import Combinatory.Text.CanonicalData
import Combinatory.Text.Utf8

/-!
# Canonical composition (Normalization Form C)

Text is made stream-safe, then fully decomposed, its combining marks sorted by class, and each
mark composed with the last starter before it when nothing blocks them. Stray bytes of
malformed UTF-8 stay in place.
-/

namespace Combinatory.Unicode

/-- The canonical combining class of a character. -/
def cccOf (c : Nat) : Nat := (combiningClass.find? c).getD 0

/-- Hangul syllable arithmetic: first syllable, leading, vowel and trailing jamo bases. -/
def sBase : Nat := 0xAC00
def lBase : Nat := 0x1100
def vBase : Nat := 0x1161
def tBase : Nat := 0x11A7

/-- The full canonical decomposition of a code point, with a depth bound that no mapping
reaches. -/
def decomposeNat : Nat → Nat → List Nat
  | 0, c => [c]
  | fuel + 1, c =>
    if sBase ≤ c ∧ c < sBase + 11172 then
      let s := c - sBase
      let l := lBase + s / 588
      let v := vBase + (s % 588) / 28
      let t := tBase + s % 28
      if s % 28 = 0 then [l, v] else [l, v, t]
    else
      match decompositions.find? c with
      | none => [c]
      | some m =>
        let a := m / 2 ^ 21
        let b := m % 2 ^ 21
        decomposeNat fuel a ++ (if b = 0 then [] else decomposeNat fuel b)

/-- Inserts a mark into a run kept sorted by combining class, after every mark of the same or
a smaller class (so equal classes keep their order). -/
def insertMark (c : Nat) : List Nat → List Nat
  | [] => [c]
  | d :: ds => if cccOf c < cccOf d then c :: d :: ds else d :: insertMark c ds

/-- Sorts each run of marks by combining class. The finished part is kept reversed and the
current run sorted. -/
def reorder (cs : List Nat) : List Nat :=
  let (done, run) := cs.foldl (fun (done, run) c =>
    if cccOf c = 0 then (c :: (run.reverse ++ done), [])
    else (done, insertMark c run)) ([], [])
  done.reverse ++ run

/-- The primary composite of a starter and a following character, if any. -/
def composePair (a b : Nat) : Option Nat :=
  if lBase ≤ a ∧ a < lBase + 19 ∧ vBase ≤ b ∧ b < vBase + 21 then
    some (sBase + (a - lBase) * 588 + (b - vBase) * 28)
  else if sBase ≤ a ∧ a < sBase + 11172 ∧ (a - sBase) % 28 = 0 ∧ tBase < b ∧ b < tBase + 28 then
    some (a + (b - tBase))
  else compositions.find? (a * 2 ^ 21 + b)

/-- Composes a canonically ordered run. The state holds the output before the current starter
(reversed), the current starter, the characters after it (reversed) and the class of the last
of those (`256` when there is no starter yet). -/
def composeAux : List Nat → List Nat → Option Nat → List Nat → Nat → List Nat
  | [], out, st, after, _ => out.reverse ++ st.toList ++ after.reverse
  | c :: rest, out, st, after, last =>
    let k := cccOf c
    match st with
    | some s =>
      match composePair s c with
      | some comp =>
        if last < k ∨ last = 0 then composeAux rest out (some comp) after last
        else if k = 0 then composeAux rest (after ++ s :: out) (some c) [] 0
        else composeAux rest out st (c :: after) k
      | none =>
        if k = 0 then composeAux rest (after ++ s :: out) (some c) [] 0
        else composeAux rest out st (c :: after) k
    | none =>
      if k = 0 then composeAux rest (after ++ out) (some c) [] 0
      else composeAux rest out none (c :: after) 256

/-- The most non-starters allowed in a row. -/
def maxNonStarters : Nat := 30

/-- The combining grapheme joiner. -/
def graphemeJoiner : Nat := 0x34F

/-- The non-starters the compatibility decomposition of `c` begins with. -/
def leadingNonStarters (c : Nat) : Nat :=
  if sBase ≤ c ∧ c < sBase + 11172 then 0 else (nonStarterCounts.find? c).getD 0 / 4

/-- The non-starters the compatibility decomposition of `c` ends with. -/
def trailingNonStarters (c : Nat) : Nat :=
  if sBase ≤ c ∧ c < sBase + 11172 then (if (c - sBase) % 28 = 0 then 1 else 2)
  else (nonStarterCounts.find? c).getD 0 % 4

/-- Makes a run stream-safe, with `run` non-starters just before it; the output so far is kept
reversed in `acc`. -/
def streamSafeAux : List Nat → Nat → List Nat → List Nat
  | [], _, acc => acc.reverse
  | c :: cs, run, acc =>
    let n := leadingNonStarters c
    if run + n > maxNonStarters then streamSafeAux cs n (c :: graphemeJoiner :: acc)
    else if n = 0 then streamSafeAux cs (trailingNonStarters c) (c :: acc)
    else streamSafeAux cs (run + n) (c :: acc)

/-- A run with a grapheme joiner before each character that would make more than thirty
non-starters in a row. -/
def streamSafe (cs : List Nat) : List Nat := streamSafeAux cs 0 []

/-- The composed normal form of a run of code points. -/
def composeRun (cs : List Nat) : List Nat :=
  composeAux (reorder ((streamSafe cs).flatMap (decomposeNat 8))) [] none [] 256

/-- The composed normal form of decoded text: runs of characters are normalized, stray bytes
stay where they are. -/
def normalizeGlyphs (gs : List Glyph) : List Glyph :=
  let flush (run : List Nat) : List Glyph :=
    (composeRun run.reverse).map fun n => .scalar (Char.ofNat n)
  let (out, run) := gs.foldl (fun (out, run) g =>
    match g with
    | .scalar c => (out, c.toNat :: run)
    | .stray b => (out ++ flush run ++ [.stray b], [])) ([], [])
  out ++ flush run

/-- The composed normal form of a byte string. -/
def normalizeBytes (bs : List UInt8) : List UInt8 :=
  (normalizeGlyphs (Glyph.decode bs)).flatMap Glyph.toBytes

end Combinatory.Unicode
