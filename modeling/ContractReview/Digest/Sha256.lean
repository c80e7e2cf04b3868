/-!
The SHA-256 digest of a list of octets.
-/

namespace ContractReview.Sha256

/-- Eight words. -/
structure State where
  a : UInt32
  b : UInt32
  c : UInt32
  d : UInt32
  e : UInt32
  f : UInt32
  g : UInt32
  h : UInt32

def State.start : State :=
  ⟨0x6a09e667, 0xbb67ae85, 0x3c6ef372, 0xa54ff53a, 0x510e527f, 0x9b05688c, 0x1f83d9ab, 0x5be0cd19⟩

def constants : List UInt32 := [
  0x428a2f98, 0x71374491, 0xb5c0fbcf, 0xe9b5dba5, 0x3956c25b, 0x59f111f1, 0x923f82a4, 0xab1c5ed5,
  0xd807aa98, 0x12835b01, 0x243185be, 0x550c7dc3, 0x72be5d74, 0x80deb1fe, 0x9bdc06a7, 0xc19bf174,
  0xe49b69c1, 0xefbe4786, 0x0fc19dc6, 0x240ca1cc, 0x2de92c6f, 0x4a7484aa, 0x5cb0a9dc, 0x76f988da,
  0x983e5152, 0xa831c66d, 0xb00327c8, 0xbf597fc7, 0xc6e00bf3, 0xd5a79147, 0x06ca6351, 0x14292967,
  0x27b70a85, 0x2e1b2138, 0x4d2c6dfc, 0x53380d13, 0x650a7354, 0x766a0abb, 0x81c2c92e, 0x92722c85,
  0xa2bfe8a1, 0xa81a664b, 0xc24b8b70, 0xc76c51a3, 0xd192e819, 0xd6990624, 0xf40e3585, 0x106aa070,
  0x19a4c116, 0x1e376c08, 0x2748774c, 0x34b0bcb5, 0x391c0cb3, 0x4ed8aa4a, 0x5b9cca4f, 0x682e6ff3,
  0x748f82ee, 0x78a5636f, 0x84c87814, 0x8cc70208, 0x90befffa, 0xa4506ceb, 0xbef9a3f7, 0xc67178f2]

def turn (x : UInt32) (n : UInt32) : UInt32 := (x >>> n) ||| (x <<< (32 - n))

/-- The message words of a block, the last one first, extended to sixty-four. -/
def schedule (words : List UInt32) : Nat → List UInt32
  | 0 => words
  | more + 1 =>
      let w := schedule words more
      let near := w.getD 1 0
      let far := w.getD 14 0
      let s1 := turn near 17 ^^^ turn near 19 ^^^ (near >>> 10)
      let s0 := turn far 7 ^^^ turn far 18 ^^^ (far >>> 3)
      (s1 + w.getD 6 0 + s0 + w.getD 15 0) :: w

def round (s : State) (k w : UInt32) : State :=
  let s1 := turn s.e 6 ^^^ turn s.e 11 ^^^ turn s.e 25
  let choice := (s.e &&& s.f) ^^^ ((s.e ^^^ 0xFFFFFFFF) &&& s.g)
  let t1 := s.h + s1 + choice + k + w
  let s0 := turn s.a 2 ^^^ turn s.a 13 ^^^ turn s.a 22
  let majority := (s.a &&& s.b) ^^^ (s.a &&& s.c) ^^^ (s.b &&& s.c)
  ⟨t1 + (s0 + majority), s.a, s.b, s.c, s.d + t1, s.e, s.f, s.g⟩

def State.add (s t : State) : State :=
  ⟨s.a + t.a, s.b + t.b, s.c + t.c, s.d + t.d, s.e + t.e, s.f + t.f, s.g + t.g, s.h + t.h⟩

def compress (s : State) (block : List UInt32) : State :=
  let words := (schedule block.reverse 48).reverse
  s.add ((constants.zip words).foldl (fun s (k, w) => round s k w) s)

def bigEndian (width n : Nat) : List Nat :=
  ((List.range width).map fun i => n / Nat.pow 256 i % 256).reverse

/-- The octets with a one bit, zeros and the length in bits behind them. -/
def padded (octets : List Nat) : List Nat :=
  let gap := (119 - octets.length % 64) % 64
  octets ++ 0x80 :: List.replicate gap 0 ++ bigEndian 8 (8 * octets.length)

def wordsOf : List Nat → List UInt32
  | a :: b :: c :: d :: rest =>
      UInt32.ofNat (((a * 256 + b) * 256 + c) * 256 + d) :: wordsOf rest
  | _ => []

/-- Folds `step` over the blocks of sixteen words. -/
def blocks (s : State) (block : List UInt32) : List UInt32 → State
  | [] => s
  | w :: rest =>
      let block := block ++ [w]
      if block.length = 16 then blocks (compress s block) [] rest else blocks s block rest

def digest (octets : List Nat) : List UInt32 :=
  let s := blocks State.start [] (wordsOf (padded octets))
  [s.a, s.b, s.c, s.d, s.e, s.f, s.g, s.h]

def hexWord (w : UInt32) : List Char :=
  ((List.range 8).map fun i => Nat.digitChar (w.toNat / Nat.pow 16 i % 16)).reverse

/-- The digest as sixty-four hexadecimal digits. -/
def hex (octets : List Nat) : List Char := (digest octets).flatMap hexWord

example : (hex [0x61, 0x62, 0x63]).take 16 = "ba7816bf8f01cfea".toList := by decide +kernel

end ContractReview.Sha256
