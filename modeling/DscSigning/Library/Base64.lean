/-
Base64 as the decoder of a scripting language reads it (characters outside the
alphabet are skipped, and a finished padding ends the input), the standard
encoder, and the round trip.
-/

import Mathlib.Data.List.Basic

namespace Base64

/-- The six bits a character stands for. -/
def digit (character : Char) : Option Nat :=
  let code := character.toNat
  if 65 ≤ code ∧ code ≤ 90 then some (code - 65)
  else if 97 ≤ code ∧ code ≤ 122 then some (code - 71)
  else if 48 ≤ code ∧ code ≤ 57 then some (code + 4)
  else if code = 43 then some 62
  else if code = 47 then some 63
  else none

inductive Fault where
  | nonAscii
  | oneTooMany
  | padding
deriving DecidableEq

/-- Place in the current group of four, the bits left over, and the padding
characters just seen. -/
structure Reader where
  place : Nat
  left : Nat
  pads : Nat

def decodeFrom (reader : Reader) : List Char → Except Fault (List UInt8)
  | [] =>
      match reader.place with
      | 0 => .ok []
      | 1 => .error .oneTooMany
      | _ => .error .padding
  | character :: rest =>
      if character = '=' then
        if 2 ≤ reader.place then
          if 4 ≤ reader.place + reader.pads + 1 then .ok []
          else decodeFrom { reader with pads := reader.pads + 1 } rest
        else decodeFrom reader rest
      else
        match digit character, reader.place with
        | none, _ => decodeFrom reader rest
        | some value, 0 => decodeFrom ⟨1, value, 0⟩ rest
        | some value, 1 =>
            (decodeFrom ⟨2, value % 16, 0⟩ rest).map
              ((UInt8.ofNat (reader.left * 4 + value / 16)) :: ·)
        | some value, 2 =>
            (decodeFrom ⟨3, value % 4, 0⟩ rest).map
              ((UInt8.ofNat (reader.left * 16 + value / 4)) :: ·)
        | some value, _ =>
            (decodeFrom ⟨0, 0, 0⟩ rest).map
              ((UInt8.ofNat (reader.left * 64 + value)) :: ·)

def decode (text : String) : Except Fault (List UInt8) :=
  if text.toList.all fun character => character.toNat < 128 then
    decodeFrom ⟨0, 0, 0⟩ text.toList
  else
    .error .nonAscii

/-! ### Encoding -/

/-- The character of six bits. -/
def letter (value : Nat) : Char :=
  if value < 26 then Char.ofNat (value + 65)
  else if value < 52 then Char.ofNat (value + 71)
  else if value < 62 then Char.ofNat (value - 4)
  else if value = 62 then '+'
  else '/'

def encodeList : List UInt8 → List Char
  | [] => []
  | [first] => [letter (first.toNat / 4), letter (first.toNat % 4 * 16), '=', '=']
  | [first, second] =>
      [letter (first.toNat / 4), letter (first.toNat % 4 * 16 + second.toNat / 16),
        letter (second.toNat % 16 * 4), '=']
  | first :: second :: third :: rest =>
      letter (first.toNat / 4) :: letter (first.toNat % 4 * 16 + second.toNat / 16) ::
        letter (second.toNat % 16 * 4 + third.toNat / 64) :: letter (third.toNat % 64) ::
          encodeList rest

def encode (bytes : List UInt8) : String := String.ofList (encodeList bytes)

theorem digit_letter {value : Nat} (small : value < 64) :
    digit (letter value) = some value ∧ letter value ≠ '=' ∧ (letter value).toNat < 128 := by
  have every : ∀ index : Fin 64, digit (letter index.val) = some index.val ∧
      letter index.val ≠ '=' ∧ (letter index.val).toNat < 128 := by
    decide
  exact every ⟨value, small⟩

theorem decodeFrom_letter {reader : Reader} {value : Nat} {rest : List Char} (small : value < 64) :
    decodeFrom reader (letter value :: rest) =
      match reader.place with
      | 0 => decodeFrom ⟨1, value, 0⟩ rest
      | 1 => (decodeFrom ⟨2, value % 16, 0⟩ rest).map
          ((UInt8.ofNat (reader.left * 4 + value / 16)) :: ·)
      | 2 => (decodeFrom ⟨3, value % 4, 0⟩ rest).map
          ((UInt8.ofNat (reader.left * 16 + value / 4)) :: ·)
      | _ => (decodeFrom ⟨0, 0, 0⟩ rest).map ((UInt8.ofNat (reader.left * 64 + value)) :: ·) := by
  obtain ⟨known, distinct, _⟩ := digit_letter small
  rw [decodeFrom, if_neg distinct, known]
  rcases reader with ⟨_ | _ | _ | place, left, pads⟩ <;> rfl

theorem decodeFrom_encodeList (bytes : List UInt8) :
    decodeFrom ⟨0, 0, 0⟩ (encodeList bytes) = .ok bytes := by
  have bound (byte : UInt8) : byte.toNat < 256 := byte.toNat_lt
  induction bytes using encodeList.induct with
  | case1 => rfl
  | case2 first =>
      have one := bound first
      have whole : first.toNat / 4 * 4 + first.toNat % 4 * 16 / 16 = first.toNat := by omega
      rw [encodeList, decodeFrom_letter (by omega), decodeFrom_letter (by omega)]
      simp only [decodeFrom, if_true, Nat.reduceLeDiff, Nat.reduceAdd, if_false, Except.map, whole,
        UInt8.ofNat_toNat]
  | case3 first second =>
      have one := bound first
      have two := bound second
      have high : first.toNat / 4 * 4 + (first.toNat % 4 * 16 + second.toNat / 16) / 16 =
          first.toNat := by omega
      have low : (first.toNat % 4 * 16 + second.toNat / 16) % 16 * 16 +
          second.toNat % 16 * 4 / 4 = second.toNat := by omega
      rw [encodeList, decodeFrom_letter (by omega), decodeFrom_letter (by omega)]
      simp only
      rw [decodeFrom_letter (by omega)]
      simp only [decodeFrom, if_true, Nat.reduceLeDiff, Nat.reduceAdd, Except.map, high, low,
        UInt8.ofNat_toNat]
  | case4 first second third rest ih =>
      have one := bound first
      have two := bound second
      have three := bound third
      have high : first.toNat / 4 * 4 + (first.toNat % 4 * 16 + second.toNat / 16) / 16 =
          first.toNat := by omega
      have middle : (first.toNat % 4 * 16 + second.toNat / 16) % 16 * 16 +
          (second.toNat % 16 * 4 + third.toNat / 64) / 4 = second.toNat := by omega
      have low : (second.toNat % 16 * 4 + third.toNat / 64) % 4 * 64 + third.toNat % 64 =
          third.toNat := by omega
      rw [encodeList, decodeFrom_letter (by omega), decodeFrom_letter (by omega)]
      simp only
      rw [decodeFrom_letter (by omega)]
      simp only
      rw [decodeFrom_letter (by omega)]
      simp only [ih, Except.map, high, middle, low, UInt8.ofNat_toNat]

theorem encodeList_ascii (bytes : List UInt8) :
    ∀ character ∈ encodeList bytes, character.toNat < 128 := by
  have bound (byte : UInt8) : byte.toNat < 256 := byte.toNat_lt
  have small {value : Nat} (six : value < 64) : (letter value).toNat < 128 := (digit_letter six).2.2
  induction bytes using encodeList.induct with
  | case1 => simp [encodeList]
  | case2 first =>
      have one := bound first
      simp only [encodeList, List.forall_mem_cons, List.not_mem_nil, false_imp_iff, implies_true,
        and_true]
      exact ⟨small (by omega), small (by omega), by decide, by decide⟩
  | case3 first second =>
      have one := bound first
      have two := bound second
      simp only [encodeList, List.forall_mem_cons, List.not_mem_nil, false_imp_iff, implies_true,
        and_true]
      exact ⟨small (by omega), small (by omega), small (by omega), by decide⟩
  | case4 first second third rest ih =>
      have one := bound first
      have two := bound second
      have three := bound third
      simp only [encodeList, List.forall_mem_cons]
      exact ⟨small (by omega), small (by omega), small (by omega), small (by omega), ih⟩

theorem decode_encode (bytes : List UInt8) : decode (encode bytes) = .ok bytes := by
  have ascii : (encode bytes).toList.all (fun character => character.toNat < 128) = true := by
    simp only [encode, String.toList_ofList, List.all_eq_true, decide_eq_true_eq]
    exact encodeList_ascii bytes
  rw [decode, if_pos ascii, encode, String.toList_ofList, decodeFrom_encodeList]

example : (decode "aGk=").toOption = some [104, 105] := by decide

theorem encode_inj {left right : List UInt8} (same : encode left = encode right) :
    left = right := by
  have decoded := decode_encode left
  rw [same, decode_encode] at decoded
  exact (Except.ok.inj decoded).symm

end Base64
