import Mathlib.Data.List.Basic

/-! MD5 over bytes, computed on natural numbers below `2 ^ 32` so that the kernel
evaluates concrete digests. -/
namespace ReplicateOnTag.Md5

abbrev Word := Nat

def modulus : Nat := 4294967296

def rotl (x : Word) (n : Nat) : Word := (x <<< n ||| x >>> (32 - n)) % modulus

def complement (x : Word) : Word := modulus - 1 - x

def sineConstants : List Word := [
  0xd76aa478, 0xe8c7b756, 0x242070db, 0xc1bdceee, 0xf57c0faf, 0x4787c62a, 0xa8304613, 0xfd469501,
  0x698098d8, 0x8b44f7af, 0xffff5bb1, 0x895cd7be, 0x6b901122, 0xfd987193, 0xa679438e, 0x49b40821,
  0xf61e2562, 0xc040b340, 0x265e5a51, 0xe9b6c7aa, 0xd62f105d, 0x02441453, 0xd8a1e681, 0xe7d3fbc8,
  0x21e1cde6, 0xc33707d6, 0xf4d50d87, 0x455a14ed, 0xa9e3e905, 0xfcefa3f8, 0x676f02d9, 0x8d2a4c8a,
  0xfffa3942, 0x8771f681, 0x6d9d6122, 0xfde5380c, 0xa4beea44, 0x4bdecfa9, 0xf6bb4b60, 0xbebfbc70,
  0x289b7ec6, 0xeaa127fa, 0xd4ef3085, 0x04881d05, 0xd9d4d039, 0xe6db99e5, 0x1fa27cf8, 0xc4ac5665,
  0xf4292244, 0x432aff97, 0xab9423a7, 0xfc93a039, 0x655b59c3, 0x8f0ccc92, 0xffeff47d, 0x85845dd1,
  0x6fa87e4f, 0xfe2ce6e0, 0xa3014314, 0x4e0811a1, 0xf7537e82, 0xbd3af235, 0x2ad7d2bb, 0xeb86d391]

/-- The rotations of each sixteen steps, four of them in turn. -/
def rotations : List (List Nat) :=
  [[7, 12, 17, 22], [5, 9, 14, 20], [4, 11, 16, 23], [6, 10, 15, 21]]

def rotation (i : Nat) : Nat := (rotations.getD (i / 16) []).getD (i % 4) 0

structure State where
  a : Word
  b : Word
  c : Word
  d : Word

def initialState : State := ⟨0x67452301, 0xefcdab89, 0x98badcfe, 0x10325476⟩

def mix (state : State) (i : Nat) : Word :=
  match i / 16 with
  | 0 => (state.b &&& state.c) ||| (complement state.b &&& state.d)
  | 1 => (state.d &&& state.b) ||| (complement state.d &&& state.c)
  | 2 => state.b ^^^ state.c ^^^ state.d
  | _ => state.c ^^^ (state.b ||| complement state.d)

/-- The word of the block that a step takes in. -/
def wordIndex (i : Nat) : Nat :=
  match i / 16 with
  | 0 => i
  | 1 => (5 * i + 1) % 16
  | 2 => (3 * i + 5) % 16
  | _ => 7 * i % 16

def step (block : List Word) (state : State) (i : Nat) : State :=
  let sum := (state.a + mix state i + sineConstants.getD i 0 + block.getD (wordIndex i) 0) % modulus
  ⟨state.d, (state.b + rotl sum (rotation i)) % modulus, state.b, state.c⟩

def compress (state : State) (block : List Word) : State :=
  let mixed := (List.range 64).foldl (step block) state
  ⟨(state.a + mixed.a) % modulus, (state.b + mixed.b) % modulus, (state.c + mixed.c) % modulus,
    (state.d + mixed.d) % modulus⟩

def wordsOf : List Nat → List Word
  | a :: b :: c :: d :: rest => (a + b * 2 ^ 8 + c * 2 ^ 16 + d * 2 ^ 24) :: wordsOf rest
  | _ => []

/-- Appends the `0x80` marker, zeros, and the 64-bit message length in bits,
lowest byte first. -/
def pad (message : List Nat) : List Nat :=
  let length := message.length
  message ++ [0x80] ++ List.replicate ((119 - length % 64) % 64) 0 ++
    (List.range 8).map fun i => (length * 8) >>> (8 * i) % 256

def blocks : Nat → List Word → List (List Word)
  | 0, _ => []
  | n + 1, words => words.take 16 :: blocks n (words.drop 16)

def wordBytes (word : Word) : List UInt8 :=
  (List.range 4).map fun i => UInt8.ofNat (word >>> (8 * i))

def State.bytes (state : State) : List UInt8 :=
  wordBytes state.a ++ wordBytes state.b ++ wordBytes state.c ++ wordBytes state.d

/-- `hashlib.md5(message).digest()`. -/
def digest (message : List UInt8) : List UInt8 :=
  let words := wordsOf (pad (message.map UInt8.toNat))
  ((blocks (words.length / 16) words).foldl compress initialState).bytes

/-- `digest_size`. -/
def digestSize : Nat := 16

theorem length_digest (message : List UInt8) : (digest message).length = digestSize := rfl

end ReplicateOnTag.Md5
