/-!
# Expansions

An expansion represents a real number as a sum of doubles that do not overlap, listed by
increasing magnitude.  Sums, differences and products of two doubles are two-component
expansions that plain double arithmetic computes without error, as long as nothing
overflows or underflows; the sign of an expansion is the sign of its last component.
-/

namespace PlanarMesh

/-- A sum of doubles, listed by increasing magnitude. -/
abbrev Expansion := List Float

namespace Expansion

/-- The rounded sum and its rounding error. -/
def twoSum (a b : Float) : Float × Float :=
  let sum := a + b
  let bPart := sum - a
  let aPart := sum - bPart
  (sum, (a - aPart) + (b - bPart))

/-- The rounding error of the difference `a - b` that was rounded to `difference`. -/
def differenceTail (a b difference : Float) : Float :=
  let bPart := a - difference
  let aPart := difference + bPart
  (a - aPart) + (bPart - b)

/-- The rounded difference and its rounding error. -/
def twoDifference (a b : Float) : Float × Float :=
  (a - b, differenceTail a b (a - b))

/-- A double as the sum of an upper and a lower half, each with few enough digits that
products of halves are not rounded. -/
def halves (a : Float) : Float × Float :=
  let shifted := 134217729 * a
  let upper := shifted - (shifted - a)
  (upper, a - upper)

/-- The rounded product and its rounding error. -/
def twoProduct (a b : Float) : Float × Float :=
  let product := a * b
  let (aUpper, aLower) := halves a
  let (bUpper, bLower) := halves b
  let rest := product - aUpper * bUpper
  let rest := rest - aLower * bUpper
  let rest := rest - aUpper * bLower
  (product, aLower * bLower - rest)

/-- A two-component expansion less a double; the components come largest first. -/
def minusOne (upper lower b : Float) : Float × Float × Float :=
  let (carry, last) := twoDifference lower b
  let (first, second) := twoSum upper carry
  (first, second, last)

/-- The difference of the products `a * b` and `c * d`. -/
def productDifference (a b c d : Float) : Expansion :=
  let (ab, abTail) := twoProduct a b
  let (cd, cdTail) := twoProduct c d
  let (carry, middle, x₀) := minusOne ab abTail cdTail
  let (x₃, x₂, x₁) := minusOne carry middle cd
  [x₀, x₁, x₂, x₃]

/-- Whether `a` is to be summed before `b`: it is not the larger in magnitude. -/
def precedes (a b : Float) : Bool :=
  decide (a < b) == decide (-a < b)

/-- Add components, smallest first, to a running sum; rounding errors that are not zero
become the components of the result. -/
def accumulate : Float → List Float → Expansion
  | sum, [] => if sum == 0 then [] else [sum]
  | sum, component :: rest =>
    let (sum, error) := twoSum sum component
    if error == 0 then accumulate sum rest else error :: accumulate sum rest

/-- The sum of two expansions, without zero components. -/
def add (e f : Expansion) : Expansion :=
  match List.merge e f precedes with
  | [] => []
  | component :: rest => accumulate component rest

/-- The rounded value. -/
def estimate (e : Expansion) : Float :=
  e.foldl (· + ·) 0

/-- The largest component, whose sign is that of the whole. -/
def leading (e : Expansion) : Float :=
  e.getLastD 0

end Expansion

end PlanarMesh
