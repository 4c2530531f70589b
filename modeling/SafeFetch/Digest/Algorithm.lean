import SafeFetch.Digest.Blake2
import SafeFetch.Digest.Md5
import SafeFetch.Digest.Sha1
import SafeFetch.Digest.Sha2
import SafeFetch.Digest.Sha3
import SafeFetch.Failure
import SafeFetch.Text.Blank

/-!
# Checksum algorithms

The algorithms that a user can name on every installation, the spellings of their names, and their
digests. Most spellings are read without regard to the case of letters. Two algorithms have digests
of any length, which nobody can ask for here, so they have no digest.

An installation may link a library that knows more algorithms, such as RIPEMD-160, SM3, the
truncated forms of SHA-512 and the pair of MD5 and SHA-1. Their names are left out, and refused like
those that stand for nothing.
-/

namespace SafeFetch

open SafeFetch.Text

/-- An algorithm for checksums. -/
inductive Algorithm where
  | md5
  | sha1
  | sha224
  | sha256
  | sha384
  | sha512
  | sha3x224
  | sha3x256
  | sha3x384
  | sha3x512
  | blake2b
  | blake2s
  | shake128
  | shake256
  deriving DecidableEq, Repr

namespace Algorithm

/-- The names that are read as they are spelled. -/
def exactNames : List (String × Algorithm) :=
  [
    ("blake2b", .blake2b), ("blake2s", .blake2s),
    ("sha3_224", .sha3x224), ("sha3_256", .sha3x256), ("sha3_384", .sha3x384),
    ("sha3_512", .sha3x512), ("shake_128", .shake128), ("shake_256", .shake256)]

/-- The names that are read in any case of their letters, in small ones. -/
def namesInAnyCase : List (String × Algorithm) :=
  [
    ("md5", .md5), ("ssl3-md5", .md5),
    ("sha1", .sha1), ("sha-1", .sha1), ("ssl3-sha1", .sha1),
    ("sha224", .sha224), ("sha-224", .sha224), ("sha2-224", .sha224),
    ("sha256", .sha256), ("sha-256", .sha256), ("sha2-256", .sha256),
    ("sha384", .sha384), ("sha-384", .sha384), ("sha2-384", .sha384),
    ("sha512", .sha512), ("sha-512", .sha512), ("sha2-512", .sha512),
    ("sha3-224", .sha3x224), ("sha3-256", .sha3x256), ("sha3-384", .sha3x384),
    ("sha3-512", .sha3x512),
    ("blake2b-512", .blake2b), ("blake2b512", .blake2b),
    ("blake2s-256", .blake2s), ("blake2s256", .blake2s),
    ("shake-128", .shake128), ("shake128", .shake128),
    ("shake-256", .shake256), ("shake256", .shake256)]

/-- The algorithm that a name stands for. -/
def ofName (name : String) : Except Failure Algorithm :=
  if name.toList.contains '\x00' then .error .nulInAlgorithm
  else
    match (exactNames.lookup name).or
        (namesInAnyCase.lookup (String.ofList (name.toList.map lowerAscii))) with
    | some algorithm => .ok algorithm
    | none => .error (.unsupportedAlgorithm name)

/-- The digest of a message. -/
def digest (algorithm : Algorithm) (message : List UInt8) : Except Failure (List UInt8) :=
  match algorithm with
  | .md5 => .ok (Digest.Md5.digest message)
  | .sha1 => .ok (Digest.Sha1.digest message)
  | .sha224 => .ok (Digest.Sha2.digest224 message)
  | .sha256 => .ok (Digest.Sha2.digest256 message)
  | .sha384 => .ok (Digest.Sha2.digest384 message)
  | .sha512 => .ok (Digest.Sha2.digest512 message)
  | .sha3x224 => .ok (Digest.Sha3.digest 28 message)
  | .sha3x256 => .ok (Digest.Sha3.digest 32 message)
  | .sha3x384 => .ok (Digest.Sha3.digest 48 message)
  | .sha3x512 => .ok (Digest.Sha3.digest 64 message)
  | .blake2b => .ok (Digest.Blake2.digest64 message)
  | .blake2s => .ok (Digest.Blake2.digest32 message)
  | .shake128 | .shake256 => .error .digestLengthRequired

end Algorithm

end SafeFetch
