/-!
# Roots of primes

The constants of several digest algorithms are the first bits after the point of square and cube
roots of small primes.
-/

namespace SafeFetch.Digest

/-- The greatest number whose power of degree `degree` is at most `n`, found bit by bit. -/
def integerRoot (degree bits n : Nat) : Nat :=
  (List.range bits).foldr
    (fun i root => if Nat.pow (root + (1 <<< i)) degree ≤ n then root + (1 <<< i) else root) 0

/-- The first `bits` bits after the point of a root of `n`. -/
def rootFraction (degree bits n : Nat) : Nat :=
  integerRoot degree (bits + 8) (n <<< (degree * bits)) % (1 <<< bits)

/-- Whether no number from two on divides `n`, except `n`. -/
def isPrime (n : Nat) : Bool :=
  2 ≤ n && (List.range n).all fun d => d < 2 || n % d != 0

/-- The first eighty primes. -/
def primes : List Nat := (List.range 410).filter isPrime

end SafeFetch.Digest
