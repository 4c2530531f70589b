import SafeFetch.Failure
import SafeFetch.Text.Blank
import SafeFetch.Text.Hex

/-!
# Expected digests

A digest that a file is expected to have, given as bytes or as hexadecimal text with white space
around. It may also be announced and not given; then nothing can have it.
-/

namespace SafeFetch

open SafeFetch.Text

/-- A digest that is expected. -/
inductive Expected where
  | bytes (digest : List UInt8)
  | text (digits : String)
  | withheld
  deriving DecidableEq, Repr

/-- The bytes of an expected digest. -/
def Expected.decode : Expected → Except Failure (List UInt8)
  | .bytes digest => .ok digest
  | .text digits => (Hex.decode (trim digits.toList)).mapError .notHexadecimal
  | .withheld => .error (.valueWithheld "hex")

end SafeFetch
