import Mathlib.Tactic

/-!
# SipHash-1-3

The hash function of the standard library's default hasher, with zero keys: one compression round per
word of eight bytes and three rounds at the end.
-/

namespace Syfrah.SipHash

structure State where
  v0 : UInt64
  v1 : UInt64
  v2 : UInt64
  v3 : UInt64

def rotl (x : UInt64) (n : UInt64) : UInt64 := (x <<< n) ||| (x >>> (64 - n))

def init : State :=
  ⟨0x736f6d6570736575, 0x646f72616e646f6d, 0x6c7967656e657261, 0x7465646279746573⟩

def round (s : State) : State :=
  let v0 := s.v0 + s.v1
  let v1 := rotl s.v1 13 ^^^ v0
  let v0 := rotl v0 32
  let v2 := s.v2 + s.v3
  let v3 := rotl s.v3 16 ^^^ v2
  let v0 := v0 + v3
  let v3 := rotl v3 21 ^^^ v0
  let v2 := v2 + v1
  let v1 := rotl v1 17 ^^^ v2
  let v2 := rotl v2 32
  ⟨v0, v1, v2, v3⟩

def absorb (s : State) (m : UInt64) : State :=
  let s := round { s with v3 := s.v3 ^^^ m }
  { s with v0 := s.v0 ^^^ m }

/-- Bytes as a number, the least significant first. -/
def word (bytes : List UInt8) : UInt64 := bytes.foldr (fun b w => (w <<< 8) ||| b.toUInt64) 0

/-- Absorb whole words and return the bytes left over. -/
def absorbWords (s : State) : List UInt8 → State × List UInt8
  | b0 :: b1 :: b2 :: b3 :: b4 :: b5 :: b6 :: b7 :: rest =>
    absorbWords (absorb s (word [b0, b1, b2, b3, b4, b5, b6, b7])) rest
  | rest => (s, rest)

def hash (bytes : List UInt8) : UInt64 :=
  let (s, tail) := absorbWords init bytes
  let s := absorb s ((UInt64.ofNat (bytes.length % 256) <<< 56) ||| word tail)
  let s := round (round (round { s with v2 := s.v2 ^^^ 0xff }))
  s.v0 ^^^ s.v1 ^^^ s.v2 ^^^ s.v3

/-- The bytes a hasher is given for a number of the given width. -/
def numberBytes (width n : ℕ) : List UInt8 :=
  (List.range width).map fun i => UInt8.ofNat (n / 256 ^ i)

/-- The bytes a hasher is given for a text: its encoding and an end mark. -/
def textBytes (s : String) : List UInt8 := s.toList.flatMap String.utf8EncodeChar ++ [0xff]

end Syfrah.SipHash
