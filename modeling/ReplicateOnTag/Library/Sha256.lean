import Mathlib.Data.List.Basic

/-! SHA-256 over byte lists, computed on natural numbers below `2 ^ 32` so that
the kernel evaluates concrete digests. -/
namespace ReplicateOnTag.Sha256

abbrev Word := Nat

def modulus : Nat := 4294967296

def rotr (x : Word) (n : Nat) : Word := (x >>> n ||| x <<< (32 - n)) % modulus

def smallSigma0 (x : Word) : Word := rotr x 7 ^^^ rotr x 18 ^^^ x >>> 3
def smallSigma1 (x : Word) : Word := rotr x 17 ^^^ rotr x 19 ^^^ x >>> 10
def bigSigma0 (x : Word) : Word := rotr x 2 ^^^ rotr x 13 ^^^ rotr x 22
def bigSigma1 (x : Word) : Word := rotr x 6 ^^^ rotr x 11 ^^^ rotr x 25

def choose (x y z : Word) : Word := (x &&& y) ^^^ ((modulus - 1 - x) &&& z)
def majority (x y z : Word) : Word := (x &&& y) ^^^ (x &&& z) ^^^ (y &&& z)

def roundConstants : List Word := [
  0x428a2f98, 0x71374491, 0xb5c0fbcf, 0xe9b5dba5, 0x3956c25b, 0x59f111f1, 0x923f82a4, 0xab1c5ed5,
  0xd807aa98, 0x12835b01, 0x243185be, 0x550c7dc3, 0x72be5d74, 0x80deb1fe, 0x9bdc06a7, 0xc19bf174,
  0xe49b69c1, 0xefbe4786, 0x0fc19dc6, 0x240ca1cc, 0x2de92c6f, 0x4a7484aa, 0x5cb0a9dc, 0x76f988da,
  0x983e5152, 0xa831c66d, 0xb00327c8, 0xbf597fc7, 0xc6e00bf3, 0xd5a79147, 0x06ca6351, 0x14292967,
  0x27b70a85, 0x2e1b2138, 0x4d2c6dfc, 0x53380d13, 0x650a7354, 0x766a0abb, 0x81c2c92e, 0x92722c85,
  0xa2bfe8a1, 0xa81a664b, 0xc24b8b70, 0xc76c51a3, 0xd192e819, 0xd6990624, 0xf40e3585, 0x106aa070,
  0x19a4c116, 0x1e376c08, 0x2748774c, 0x34b0bcb5, 0x391c0cb3, 0x4ed8aa4a, 0x5b9cca4f, 0x682e6ff3,
  0x748f82ee, 0x78a5636f, 0x84c87814, 0x8cc70208, 0x90befffa, 0xa4506ceb, 0xbef9a3f7, 0xc67178f2]

def initialHash : List Word := [
  0x6a09e667, 0xbb67ae85, 0x3c6ef372, 0xa54ff53a, 0x510e527f, 0x9b05688c, 0x1f83d9ab, 0x5be0cd19]

/-- Extends a message schedule kept newest word first. -/
def schedule : Nat → List Word → List Word
  | 0, words => words
  | n + 1, words =>
      schedule n (((smallSigma1 (words.getD 1 0) + words.getD 6 0 +
        smallSigma0 (words.getD 14 0) + words.getD 15 0) % modulus) :: words)

def round (state : List Word) (input : Word) : List Word :=
  match state with
  | [a, b, c, d, e, f, g, h] =>
      let t1 := h + bigSigma1 e + choose e f g + input
      let t2 := bigSigma0 a + majority a b c
      [(t1 + t2) % modulus, a, b, c, (d + t1) % modulus, e, f, g]
  | other => other

def compress (state block : List Word) : List Word :=
  let words := (schedule 48 block.reverse).reverse
  List.zipWith (fun x y => (x + y) % modulus) state
    ((List.zipWith (· + ·) roundConstants words).foldl round state)

def wordsOf : List Nat → List Word
  | a :: b :: c :: d :: rest => (a * 2 ^ 24 + b * 2 ^ 16 + c * 2 ^ 8 + d) :: wordsOf rest
  | _ => []

/-- Appends the `0x80` marker, zeros, and the 64-bit message length in bits. -/
def pad (message : List Nat) : List Nat :=
  let length := message.length
  message ++ [0x80] ++ List.replicate ((119 - length % 64) % 64) 0 ++
    (List.range 8).map fun i => (length * 8) >>> (8 * (7 - i)) % 256

def blocks : Nat → List Word → List (List Word)
  | 0, _ => []
  | n + 1, words => words.take 16 :: blocks n (words.drop 16)

def digest (message : List Nat) : List Word :=
  let words := wordsOf (pad message)
  (blocks (words.length / 16) words).foldl compress initialHash

def hexDigit (n : Nat) : Char := "0123456789abcdef".toList.getD n '0'

def hexWord (word : Word) : List Char :=
  (List.range 8).map fun i => hexDigit (word >>> (4 * (7 - i)) % 16)

def utf8 (text : String) : List Nat :=
  text.toList.flatMap fun c => (String.utf8EncodeChar c).map UInt8.toNat

/-- `hashlib.sha256(text.encode("utf-8")).hexdigest()`. -/
def hexdigest (text : String) : String := String.ofList ((digest (utf8 text)).flatMap hexWord)

example : ((hexdigest "abc").take 8).toString = "ba7816bf" := by decide +kernel

end ReplicateOnTag.Sha256
