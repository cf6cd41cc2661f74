/-
Signed 64-bit sums. A sum that leaves the 64-bit range wraps around into it, as the scores and
totals are added on a machine word.
-/

namespace DraftPool

/-- Signed 64-bit addition that wraps around on overflow. -/
def addWrapping (a b : Int) : Int := Int.bmod (a + b) 18446744073709551616

/-- A list summed left to right in 64 bits. -/
def sumWrapping (values : List Int) : Int := values.foldl addWrapping 0

end DraftPool
