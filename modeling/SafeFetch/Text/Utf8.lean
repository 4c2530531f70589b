/-!
# UTF-8

Texts as bytes and back. Reading goes through one scan that splits the bytes into characters and
faults, where a fault is a longest piece that begins a character without finishing it, or a single
byte that begins none. Strict reading refuses every fault; lossy reading shows each fault as the
replacement character.
-/

namespace SafeFetch.Text.Utf8

/-- The bytes of one character. -/
def encodeChar (c : Char) : List UInt8 :=
  let n := c.toNat
  if n < 0x80 then [UInt8.ofNat n]
  else if n < 0x800 then [UInt8.ofNat (0xC0 + n / 0x40), UInt8.ofNat (0x80 + n % 0x40)]
  else if n < 0x10000 then
    [UInt8.ofNat (0xE0 + n / 0x1000), UInt8.ofNat (0x80 + n / 0x40 % 0x40),
      UInt8.ofNat (0x80 + n % 0x40)]
  else
    [UInt8.ofNat (0xF0 + n / 0x40000), UInt8.ofNat (0x80 + n / 0x1000 % 0x40),
      UInt8.ofNat (0x80 + n / 0x40 % 0x40), UInt8.ofNat (0x80 + n % 0x40)]

/-- The bytes of a text. -/
def encode (s : List Char) : List UInt8 := s.flatMap encodeChar

/-- The least and the greatest second byte after the first byte `lead` of a character of three or
four bytes. They leave out overlong forms, surrogates and code points past the last one. -/
def secondByteRange (lead : Nat) : Nat × Nat :=
  if lead = 0xE0 then (0xA0, 0xBF)
  else if lead = 0xED then (0x80, 0x9F)
  else if lead = 0xF0 then (0x90, 0xBF)
  else if lead = 0xF4 then (0x80, 0x8F)
  else (0x80, 0xBF)

/-- Whether `b` may be the second byte after `lead`. -/
def isSecond (lead : Nat) (b : UInt8) : Bool :=
  (secondByteRange lead).1 ≤ b.toNat && b.toNat ≤ (secondByteRange lead).2

/-- Whether `b` continues a character. -/
def isContinuation (b : UInt8) : Bool := 0x80 ≤ b.toNat && b.toNat ≤ 0xBF

/-- The six payload bits of a continuation byte. -/
def payload (b : UInt8) : Nat := b.toNat % 0x40

/-- Split bytes into characters and faults, a fault being `none`. -/
def scan : List UInt8 → List (Option Char)
  | [] => []
  | b :: rest =>
    let n := b.toNat
    if n < 0x80 then some (Char.ofNat n) :: scan rest
    else if n < 0xC2 then none :: scan rest
    else if n < 0xE0 then
      match rest with
      | b₁ :: rest₁ =>
        if isContinuation b₁ then
          some (Char.ofNat (n % 0x20 * 0x40 + payload b₁)) :: scan rest₁
        else none :: scan (b₁ :: rest₁)
      | [] => [none]
    else if n < 0xF0 then
      match rest with
      | b₁ :: b₂ :: rest₂ =>
        if isSecond n b₁ then
          if isContinuation b₂ then
            some (Char.ofNat (n % 0x10 * 0x1000 + payload b₁ * 0x40 + payload b₂)) :: scan rest₂
          else none :: scan (b₂ :: rest₂)
        else none :: scan (b₁ :: b₂ :: rest₂)
      | [b₁] => if isSecond n b₁ then [none] else none :: scan [b₁]
      | [] => [none]
    else if n < 0xF5 then
      match rest with
      | b₁ :: b₂ :: b₃ :: rest₃ =>
        if isSecond n b₁ then
          if isContinuation b₂ then
            if isContinuation b₃ then
              some (Char.ofNat
                (n % 0x8 * 0x40000 + payload b₁ * 0x1000 + payload b₂ * 0x40 + payload b₃)) ::
                scan rest₃
            else none :: scan (b₃ :: rest₃)
          else none :: scan (b₂ :: b₃ :: rest₃)
        else none :: scan (b₁ :: b₂ :: b₃ :: rest₃)
      | [b₁, b₂] =>
        if isSecond n b₁ then
          if isContinuation b₂ then [none] else none :: scan [b₂]
        else none :: scan [b₁, b₂]
      | [b₁] => if isSecond n b₁ then [none] else none :: scan [b₁]
      | [] => [none]
    else none :: scan rest

/-- Read bytes as a text, refusing any fault. -/
def decode? (bytes : List UInt8) : Option (List Char) := (scan bytes).mapM id

/-- Read bytes as a text, each fault becoming the replacement character. -/
def decodeLossy (bytes : List UInt8) : List Char := (scan bytes).map (·.getD '\uFFFD')

end SafeFetch.Text.Utf8
