import SafeFetch.Text.Numeral

/-!
# Decimals and binary floating point

Numbers of 64-bit binary floating point, read from decimal text and written with the fewest digits
that read back. A number is a significand times a power of two; reading rounds an exact quotient to
the nearest number, ties to the even significand, and writing looks for the shortest decimal among
those that round to the number.
-/

namespace SafeFetch.Text

/-- A number of 64-bit binary floating point. -/
inductive Binary64 where
  /-- The number `significand * 2 ^ exponent`, or its negative. -/
  | finite (isNegative : Bool) (significand : Nat) (exponent : Int)
  | infinite (isNegative : Bool)
  | notANumber
  deriving DecidableEq, Repr

namespace Binary64

/-- Significands are below this power of two. -/
def precision : Nat := 53

/-- The least exponent. -/
def minExponent : Int := -1074

/-- The greatest exponent of a full significand. -/
def maxExponent : Int := 971

/-- A natural number that is `base ^ e` over the other one; one of the two is one. -/
def powerRatio (base : Nat) (e : Int) : Nat × Nat :=
  if 0 ≤ e then (Nat.pow base e.toNat, 1) else (1, Nat.pow base (-e).toNat)

/-! ## Reading -/

/-- The natural number nearest to a quotient; of two that are equally near, the even one. -/
def roundQuotient (num den : Nat) : Nat :=
  let floor := num / den
  let twice := 2 * (num % den)
  if den < twice ∨ (twice = den ∧ floor % 2 = 1) then floor + 1 else floor

/-- The exponent for which `num / den` has a significand of full precision, as far as exponents
reach. -/
def exponentFor (num den : Nat) : Int :=
  let e : Int := (num.log2 : Int) - den.log2 - precision
  let (up, down) := powerRatio 2 e
  let e := if num * down < (1 <<< precision) * (den * up) then e else e + 1
  max e minExponent

/-- The number nearest to the quotient of two positive numbers. -/
def ofRatio (isNegative : Bool) (num den : Nat) : Binary64 :=
  let e := exponentFor num den
  let (up, down) := powerRatio 2 e
  let significand := roundQuotient (num * down) (den * up)
  let (significand, e) :=
    if significand = 1 <<< precision then (1 <<< (precision - 1), e + 1) else (significand, e)
  if maxExponent < e then .infinite isNegative else .finite isNegative significand e

/-- Decimal exponents beyond which every number is infinite or zero. -/
def decimalLimit : Int := 400

/-- The number nearest to `digits * 10 ^ exponent`. -/
def ofDecimal (isNegative : Bool) (digits : List Char) (exponent : Int) : Binary64 :=
  let digits := digits.dropWhile (· == '0')
  let magnitude := exponent + digits.length
  if digits.isEmpty ∨ magnitude < -decimalLimit then .finite isNegative 0 minExponent
  else if decimalLimit < magnitude then .infinite isNegative
  else
    let (up, down) := powerRatio 10 exponent
    ofRatio isNegative (Numeral.natOfDigits digits * up) down

/-- Leave out low lines; each must stand between two digits. -/
def ungroup? (s : List Char) : Option (List Char) :=
  let groups := splitAll '_' s
  let startsWell (group : List Char) := (group.head?.map Numeral.isPlainDigit).getD false
  let endsWell (group : List Char) := (group.getLast?.map Numeral.isPlainDigit).getD false
  if groups.tail.all startsWell && groups.dropLast.all endsWell then some groups.flatten else none

/-- Read the exponent of a decimal; no text is the exponent zero. -/
def exponent? : List Char → Option Int
  | [] => some 0
  | mark :: rest =>
    if lowerAscii mark = 'e' then
      let (isNegative, digits) := Numeral.splitSign rest
      if digits.isEmpty || !digits.all Numeral.isPlainDigit then none
      else if isNegative then some (-(Numeral.natOfDigits digits : Int))
      else some (Numeral.natOfDigits digits)
    else none

/-- Read a decimal without its sign. -/
def unsigned? (isNegative : Bool) (s : List Char) : Option Binary64 :=
  let name := String.ofList (s.map lowerAscii)
  if name = "inf" ∨ name = "infinity" then some (.infinite isNegative)
  else if name = "nan" then some .notANumber
  else
    let whole := s.takeWhile Numeral.isPlainDigit
    let rest := s.dropWhile Numeral.isPlainDigit
    let (places, rest) :=
      if rest.head? = some '.' then
        ((rest.drop 1).takeWhile Numeral.isPlainDigit, (rest.drop 1).dropWhile Numeral.isPlainDigit)
      else ([], rest)
    if whole.isEmpty && places.isEmpty then none
    else (exponent? rest).map fun e => ofDecimal isNegative (whole ++ places) (e - places.length)

/-- Read a decimal, with the digits of any script and white space around. -/
def ofText? (s : List Char) : Option Binary64 :=
  (ungroup? (Numeral.plain s)).bind fun s =>
    let (isNegative, rest) := Numeral.splitSign s
    unsigned? isNegative rest

/-! ## Writing -/

/-- The bounds of the numbers that round to `significand * 2 ^ exponent`, in quarters of the power.
The gap below a power of two is half as wide. -/
def bounds (significand : Nat) (exponent : Int) : Nat × Nat :=
  let isPower := significand = 1 <<< (precision - 1) ∧ minExponent < exponent
  (4 * significand - (if isPower then 1 else 2), 4 * significand + 2)

/-- The power of ten just above a positive quotient. -/
def decimalMagnitude (num den : Nat) : Int :=
  let e : Int := ((Nat.toDigits 10 num).length : Int) - (Nat.toDigits 10 den).length
  let (up, down) := powerRatio 10 e
  if den * up ≤ num * down then e + 1 else e

/-- Whether `candidate * 10 ^ power` rounds to `significand * 2 ^ exponent`. -/
def roundsTo (significand : Nat) (exponent : Int) (candidate : Nat) (power : Int) : Bool :=
  let (up, down) := powerRatio 2 exponent
  let (ten, tenth) := powerRatio 10 power
  let (low, high) := bounds significand exponent
  let (low, high) := (low * up * tenth, high * up * tenth)
  let scaled := 4 * candidate * ten * down
  (low < scaled && scaled < high) ||
    (significand % 2 == 0 && (scaled == low || scaled == high))

/-- The decimal of `places` digits that rounds to a number, as a natural number and a power of ten:
the nearest one, or else its neighbour on the other side of the number. -/
def decimalOf? (significand : Nat) (exponent : Int) (places : Nat) : Option (Nat × Int) :=
  let (up, down) := powerRatio 2 exponent
  let power := decimalMagnitude (significand * up) down - places
  let (ten, tenth) := powerRatio 10 power
  let num := significand * up * tenth
  let den := down * ten
  let nearest := roundQuotient num den
  let other := if nearest = num / den then nearest + 1 else nearest - 1
  ([nearest, other].find? (roundsTo significand exponent · power)).map (·, power)

/-- The shortest decimal that rounds to a number: its digits and the position of its point.
Seventeen digits always suffice. -/
def shortest (significand : Nat) (exponent : Int) : List Char × Int :=
  match (List.range 17).findSome? fun n => decimalOf? significand exponent (n + 1) with
  | some (n, power) =>
    let digits := Nat.toDigits 10 n
    (dropEndWhile (· == '0') digits, digits.length + power)
  | none => (['0'], 1)

/-- Write digits with the point at `point`: positional from a ten-thousandth up to ten to the
sixteenth, and with an exponent of two digits at least beyond. -/
def layout (digits : List Char) (point : Int) : List Char :=
  if -4 < point ∧ point ≤ 0 then
    '0' :: '.' :: List.replicate (-point).toNat '0' ++ digits
  else if 0 < point ∧ point ≤ 16 then
    let whole := digits.take point.toNat
    let places := digits.drop point.toNat
    whole ++ List.replicate (point.toNat - digits.length) '0' ++
      '.' :: (if places.isEmpty then ['0'] else places)
  else
    let e := point - 1
    let size := Nat.toDigits 10 e.natAbs
    digits.take 1 ++ (if digits.length ≤ 1 then [] else '.' :: digits.drop 1) ++
      'e' :: (if e < 0 then '-' else '+') :: List.replicate (2 - size.length) '0' ++ size

/-- The text of a number. -/
def text : Binary64 → String
  | .notANumber => "nan"
  | .infinite isNegative => if isNegative then "-inf" else "inf"
  | .finite isNegative significand exponent =>
    (if isNegative then "-" else "") ++
      if significand = 0 then "0.0"
      else
        let (digits, point) := shortest significand exponent
        String.ofList (layout digits point)

end Binary64

end SafeFetch.Text
