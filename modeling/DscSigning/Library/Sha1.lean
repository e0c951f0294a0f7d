/-
SHA-1 (FIPS 180-4) over lists of bytes.
-/

import Mathlib.Data.List.Basic

namespace Sha1

def rotl (word : UInt32) (count : UInt32) : UInt32 :=
  (word <<< count) ||| (word >>> (32 - count))

structure State where
  a : UInt32
  b : UInt32
  c : UInt32
  d : UInt32
  e : UInt32
deriving DecidableEq

def initial : State := ⟨0x67452301, 0xEFCDAB89, 0x98BADCFE, 0x10325476, 0xC3D2E1F0⟩

/-! ### Padding -/

/-- The lowest `count` octets of a number, the highest first. -/
def octets : Nat → Nat → List UInt8
  | 0, _ => []
  | count + 1, value => octets count (value / 256) ++ [UInt8.ofNat value]

/-- A one bit, zeros, and the length in bits fill the last block. -/
def padded (message : List UInt8) : List UInt8 :=
  message ++ 0x80 :: List.replicate ((119 - message.length % 64) % 64) 0 ++
    octets 8 (8 * message.length)

def word (a b c d : UInt8) : UInt32 :=
  (a.toUInt32 <<< 24) ||| (b.toUInt32 <<< 16) ||| (c.toUInt32 <<< 8) ||| d.toUInt32

def words : List UInt8 → List UInt32
  | a :: b :: c :: d :: rest => word a b c d :: words rest
  | _ => []

/-! ### Compression -/

/-- The schedule, the newest word first. -/
def extend : Nat → List UInt32 → List UInt32
  | 0, newest => newest
  | count + 1, newest =>
      extend count (rotl (newest.getD 2 0 ^^^ newest.getD 7 0 ^^^ newest.getD 13 0 ^^^
        newest.getD 15 0) 1 :: newest)

def schedule (block : List UInt32) : List UInt32 := (extend 64 block.reverse).reverse

/-- The function and the constant of a round. -/
def mix (round : Nat) (b c d : UInt32) : UInt32 × UInt32 :=
  if round < 20 then ((b &&& c) ||| (~~~b &&& d), 0x5A827999)
  else if round < 40 then (b ^^^ c ^^^ d, 0x6ED9EBA1)
  else if round < 60 then ((b &&& c) ||| (b &&& d) ||| (c &&& d), 0x8F1BBCDC)
  else (b ^^^ c ^^^ d, 0xCA62C1D6)

def rounds : Nat → List UInt32 → State → State
  | _, [], state => state
  | round, word :: rest, ⟨a, b, c, d, e⟩ =>
      let (choice, constant) := mix round b c d
      rounds (round + 1) rest ⟨rotl a 5 + choice + e + constant + word, a, rotl b 30, c, d⟩

def compress (state : State) (block : List UInt32) : State :=
  let last := rounds 0 (schedule block) state
  ⟨state.a + last.a, state.b + last.b, state.c + last.c, state.d + last.d, state.e + last.e⟩

/-- The blocks of sixteen words, one after the other. -/
def absorb : Nat → State → List UInt32 → State
  | 0, state, _ => state
  | count + 1, state, input => absorb count (compress state (input.take 16)) (input.drop 16)

def digest (state : State) : List UInt8 :=
  [state.a, state.b, state.c, state.d, state.e].flatMap fun word => octets 4 word.toNat

def hash (message : List UInt8) : List UInt8 :=
  let input := words (padded message)
  digest (absorb (input.length / 16) initial input)

/-! ### Lengths -/

@[simp] theorem octets_length (count value : Nat) : (octets count value).length = count := by
  induction count generalizing value with
  | zero => rfl
  | succ count ih => rw [octets, List.length_append, ih, List.length_singleton]

@[simp] theorem hash_length (message : List UInt8) : (hash message).length = 20 := by
  simp [hash, digest]

-- "abc", of which the standard gives the digest
example : hash [0x61, 0x62, 0x63] =
    [0xa9, 0x99, 0x3e, 0x36, 0x47, 0x06, 0x81, 0x6a, 0xba, 0x3e,
     0x25, 0x71, 0x78, 0x50, 0xc2, 0x6c, 0x9c, 0xd0, 0xd8, 0x9d] := by
  decide +kernel

end Sha1
