/-
The distinguished encoding of tagged values: a tag, the length in as few octets
as it takes, and the contents; integers in as few octets as they take.

An encoding determines its contents, because a longer body never has a shorter
header; a strict reader refuses whatever is not written so.
-/

import Mathlib.Data.Nat.Digits.Defs
import Mathlib.Data.Nat.Digits.Lemmas
import Mathlib.Tactic.Ring

namespace Der

/-- The octets of a number, the highest first; none for zero. -/
def bigEndian (value : Nat) : List UInt8 := ((Nat.digits 256 value).map UInt8.ofNat).reverse

/-- One octet below 128, else their number and the octets. -/
def lengthOctets (length : Nat) : List UInt8 :=
  if length < 128 then [UInt8.ofNat length]
  else UInt8.ofNat (0x80 + (bigEndian length).length) :: bigEndian length

def tlv (tag : UInt8) (body : List UInt8) : List UInt8 :=
  tag :: (lengthOctets body.length ++ body)

def sequence (items : List (List UInt8)) : List UInt8 := tlv 0x30 items.flatten

def octetString (contents : List UInt8) : List UInt8 := tlv 0x04 contents

/-- The contents of a `BIT STRING`: the number of unused bits, and the octets. -/
def bitString (unused : UInt8) (contents : List UInt8) : List UInt8 := tlv 0x03 (unused :: contents)

def null : List UInt8 := tlv 0x05 []

/-- The contents of a non-negative `INTEGER`: two's complement, in the fewest octets. -/
def unsigned (value : Nat) : List UInt8 :=
  match bigEndian value with
  | [] => [0]
  | first :: rest => if 128 ≤ first.toNat then 0 :: first :: rest else first :: rest

def integer (value : Nat) : List UInt8 := tlv 0x02 (unsigned value)

/-! ### The octets of a number -/

theorem bigEndian_zero : bigEndian 0 = [] := by
  simp [bigEndian]

@[simp] theorem bigEndian_length (value : Nat) :
    (bigEndian value).length = (Nat.digits 256 value).length := by
  simp [bigEndian]

theorem bigEndian_eq_nil {value : Nat} : bigEndian value = [] ↔ value = 0 := by
  rw [← List.length_eq_zero_iff, bigEndian_length, List.length_eq_zero_iff,
    Nat.digits_eq_nil_iff_eq_zero]

/-! ### Lengths -/

theorem lengthOctets_length_mono {small large : Nat} (le : small ≤ large) :
    (lengthOctets small).length ≤ (lengthOctets large).length := by
  unfold lengthOctets
  by_cases short : large < 128
  · rw [if_pos short, if_pos (by omega)]
    simp
  · rw [if_neg short]
    by_cases low : small < 128
    · rw [if_pos low]
      simp
    · rw [if_neg low]
      have digits := Nat.le_length_digits_le 256 small large le
      simpa using digits

@[simp] theorem tlv_length (tag : UInt8) (body : List UInt8) :
    (tlv tag body).length = 1 + (lengthOctets body.length).length + body.length := by
  rw [tlv, List.length_cons, List.length_append]
  omega

theorem tlv_length_lt (tag other : UInt8) {body more : List UInt8}
    (longer : body.length < more.length) : (tlv tag body).length < (tlv other more).length := by
  have header := lengthOctets_length_mono (Nat.le_of_lt longer)
  rw [tlv_length, tlv_length]
  omega

theorem tlv_inj {tag other : UInt8} {body more : List UInt8} (same : tlv tag body = tlv other more) :
    tag = other ∧ body = more := by
  have sizes := congrArg List.length same
  have equal : body.length = more.length := by
    rcases Nat.lt_trichotomy body.length more.length with less | equal | less
    · have strict := tlv_length_lt tag other less
      omega
    · exact equal
    · have strict := tlv_length_lt other tag less
      omega
  rw [tlv, tlv, equal] at same
  injection same with tags rest
  exact ⟨tags, List.append_cancel_left rest⟩

/-- Below 256 the length takes one octet after the first. -/
theorem lengthOctets_one {length : Nat} (long : 128 ≤ length) (small : length < 256) :
    lengthOctets length = [0x81, UInt8.ofNat length] := by
  have digits : Nat.digits 256 length = [length] := Nat.digits_of_lt 256 length (by omega) small
  rw [lengthOctets, if_neg (by omega), bigEndian, digits]
  rfl

/-- Below 65536 it takes two. -/
theorem lengthOctets_two {length : Nat} (long : 256 ≤ length) (small : length < 65536) :
    lengthOctets length = [0x82, UInt8.ofNat (length / 256), UInt8.ofNat length] := by
  have digits : Nat.digits 256 length = [length % 256, length / 256] := by
    rw [Nat.digits_def' (by norm_num) (by omega),
      Nat.digits_of_lt 256 (length / 256) (by omega) (by omega)]
  have low : UInt8.ofNat (length % 256) = UInt8.ofNat length := by
    rw [← UInt8.toNat_inj, UInt8.toNat_ofNat', UInt8.toNat_ofNat']
    omega
  rw [lengthOctets, if_neg (by omega), bigEndian, digits]
  simp [low]

/-- From 65536 on it takes more. -/
theorem lengthOctets_long {length : Nat} (long : 65536 ≤ length) :
    4 ≤ (lengthOctets length).length := by
  have least : (Nat.digits 256 65536).length = 3 := by simp
  have digits := Nat.le_length_digits_le 256 65536 length long
  rw [lengthOctets, if_neg (by omega), List.length_cons, bigEndian_length]
  omega

/-- The header takes four octets between 256 and 65536, and never fewer above. -/
theorem tlv_length_le (tag : UInt8) {body : List UInt8} (small : body.length < 65536) :
    (tlv tag body).length ≤ body.length + 4 := by
  have largest : (lengthOctets 65535).length = 3 := by
    rw [lengthOctets_two (by norm_num) (by norm_num)]
    rfl
  have header := lengthOctets_length_mono (show body.length ≤ 65535 by omega)
  rw [tlv_length]
  omega

theorem tlv_length_ge (tag : UInt8) {body : List UInt8} (large : 256 ≤ body.length) :
    body.length + 4 ≤ (tlv tag body).length := by
  have least : (lengthOctets 256).length = 3 := by
    rw [lengthOctets_two (by norm_num) (by norm_num)]
    rfl
  have header := lengthOctets_length_mono large
  rw [tlv_length]
  omega

/-! ### The number that octets stand for -/

def ofBigEndian : List UInt8 → Nat
  | [] => 0
  | first :: rest => first.toNat * 256 ^ rest.length + ofBigEndian rest

theorem ofBigEndian_lt (octets : List UInt8) : ofBigEndian octets < 256 ^ octets.length := by
  induction octets with
  | nil => simp [ofBigEndian]
  | cons first rest ih =>
      have top : first.toNat + 1 ≤ 256 := first.toNat_lt
      calc ofBigEndian (first :: rest) < first.toNat * 256 ^ rest.length + 256 ^ rest.length :=
            Nat.add_lt_add_left ih _
        _ = (first.toNat + 1) * 256 ^ rest.length := by rw [Nat.add_mul, Nat.one_mul]
        _ ≤ 256 * 256 ^ rest.length := Nat.mul_le_mul_right _ top
        _ = 256 ^ (first :: rest).length := by rw [List.length_cons, Nat.pow_succ']

theorem ofBigEndian_append (octets : List UInt8) (last : UInt8) :
    ofBigEndian (octets ++ [last]) = 256 * ofBigEndian octets + last.toNat := by
  induction octets with
  | nil => simp [ofBigEndian]
  | cons first rest ih =>
      rw [List.cons_append, ofBigEndian, ofBigEndian, ih, List.length_append, List.length_singleton,
        Nat.pow_succ]
      ring

theorem ofBigEndian_reverse (digits : List Nat) (bound : ∀ digit ∈ digits, digit < 256) :
    ofBigEndian (digits.map UInt8.ofNat).reverse = Nat.ofDigits 256 digits := by
  induction digits with
  | nil => rfl
  | cons digit rest ih =>
      have small : digit < 256 := bound digit (by simp)
      rw [List.map_cons, List.reverse_cons, ofBigEndian_append,
        ih fun other member => bound other (by simp [member]), Nat.ofDigits_cons,
        UInt8.toNat_ofNat', Nat.mod_eq_of_lt small, Nat.add_comm]

@[simp] theorem ofBigEndian_bigEndian (value : Nat) : ofBigEndian (bigEndian value) = value := by
  rw [bigEndian, ofBigEndian_reverse _ fun digit member => Nat.digits_lt_base (by norm_num) member,
    Nat.ofDigits_digits]

/-- The first octet is not zero, and says how large the number is. -/
theorem bigEndian_bounds {value : Nat} {first : UInt8} {rest : List UInt8}
    (octets : bigEndian value = first :: rest) :
    first ≠ 0 ∧ first.toNat * 256 ^ rest.length ≤ value ∧
      value < (first.toNat + 1) * 256 ^ rest.length := by
  have number := ofBigEndian_bigEndian value
  have below := ofBigEndian_lt rest
  rw [octets, ofBigEndian] at number
  refine ⟨?_, by omega, by rw [Nat.add_mul]; omega⟩
  rintro rfl
  have size := congrArg List.length octets
  rw [bigEndian_length, List.length_cons] at size
  have short : value < 256 ^ rest.length := by
    rw [← number]
    simpa using below
  have least := (Nat.digits_length_le_iff (by norm_num) value).mpr short
  omega

/-- An integer takes so many octets exactly up to a half of what they could say unsigned. -/
theorem unsigned_length_le {value count : Nat} :
    (unsigned value).length ≤ count + 1 ↔ value < 128 * 256 ^ count := by
  unfold unsigned
  cases octets : bigEndian value with
  | nil =>
      rw [bigEndian_eq_nil.mp octets]
      simp
  | cons first rest =>
      obtain ⟨nonzero, least, most⟩ := bigEndian_bounds octets
      have positive : 1 ≤ first.toNat := by
        rw [Nat.one_le_iff_ne_zero, ne_eq, ← UInt8.toNat_zero, UInt8.toNat_inj]
        exact nonzero
      have octet : first.toNat + 1 ≤ 256 := first.toNat_lt
      by_cases high : 128 ≤ first.toNat
      · simp only [if_pos high, List.length_cons]
        have lower : 128 * 256 ^ rest.length ≤ value :=
          (Nat.mul_le_mul_right _ high).trans least
        constructor
        · intro fits
          calc value < 256 * 256 ^ rest.length := most.trans_le (Nat.mul_le_mul_right _ octet)
            _ = 256 ^ (rest.length + 1) := by rw [Nat.pow_succ']
            _ ≤ 256 ^ count := Nat.pow_le_pow_right (by norm_num) (by omega)
            _ ≤ 128 * 256 ^ count := Nat.le_mul_of_pos_left _ (by norm_num)
        · intro small
          have powers : 256 ^ rest.length < 256 ^ count :=
            Nat.lt_of_mul_lt_mul_left (lower.trans_lt small)
          have shorter := (Nat.pow_lt_pow_iff_right (by norm_num)).mp powers
          omega
      · simp only [if_neg high, List.length_cons]
        constructor
        · intro fits
          calc value < 128 * 256 ^ rest.length :=
                most.trans_le (Nat.mul_le_mul_right _ (by omega))
            _ ≤ 128 * 256 ^ count :=
                Nat.mul_le_mul_left _ (Nat.pow_le_pow_right (by norm_num) (by omega))
        · intro small
          have lower : 256 ^ rest.length ≤ value :=
            (Nat.le_mul_of_pos_left _ positive).trans least
          have upper : 128 * 256 ^ count < 256 ^ (count + 1) := by
            rw [Nat.pow_succ']
            exact Nat.mul_lt_mul_of_pos_right (by norm_num) (Nat.pow_pos (by norm_num))
          have shorter := (Nat.pow_lt_pow_iff_right (by norm_num)).mp
            (lower.trans_lt (small.trans upper))
          omega

/-! ### Strict reading -/

/-- The octets of a tag: one, or those that the first announces, with the number in as few
octets as it takes. -/
def readTag : List UInt8 → Option (List UInt8 × List UInt8)
  | [] => none
  | first :: rest =>
      if first &&& 0x1f ≠ 0x1f then some ([first], rest)
      else
        let more := rest.takeWhile fun octet => 128 ≤ octet.toNat
        match rest.dropWhile fun octet => 128 ≤ octet.toNat with
        | [] => none
        | last :: after =>
            if more = [] ∧ last.toNat < 31 ∨ more.head? = some 0x80 then none
            else some (first :: (more ++ [last]), after)

/-- A length in the definite form, in as few octets as it takes. -/
def readLength : List UInt8 → Option (Nat × List UInt8)
  | [] => none
  | first :: rest =>
      if first.toNat < 128 then some (first.toNat, rest)
      else
        let octets := rest.take (first.toNat - 128)
        if first = 0xff ∨ octets.length < first.toNat - 128 ∨ octets.head?.getD 0 = 0 ∨
            ofBigEndian octets < 128 then none
        else some (ofBigEndian octets, rest.drop (first.toNat - 128))

/-- The tag and the contents of the first value, and what follows it. -/
def decode (octets : List UInt8) : Option (List UInt8 × List UInt8 × List UInt8) := do
  let (tag, rest) ← readTag octets
  let (length, rest) ← readLength rest
  if rest.length < length then none else some (tag, rest.take length, rest.drop length)

theorem readTag_one {tag : UInt8} (one : tag &&& 0x1f ≠ 0x1f) (rest : List UInt8) :
    readTag (tag :: rest) = some ([tag], rest) := by
  rw [readTag, if_pos one]

theorem readTag_more {tag : UInt8} (more : tag &&& 0x1f = 0x1f) {rest after octets : List UInt8}
    (read : readTag (tag :: rest) = some (octets, after)) : 2 ≤ octets.length := by
  rw [readTag, if_neg (by simp [more])] at read
  simp only at read
  split at read
  · cases read
  · split at read
    · cases read
    · cases read
      simp

/-- What is written as a length is read as it. -/
theorem readLength_written {length : Nat} (fits : length < 256 ^ 126) (rest : List UInt8) :
    readLength (lengthOctets length ++ rest) = some (length, rest) := by
  unfold lengthOctets
  by_cases short : length < 128
  · rw [if_pos short, List.singleton_append, readLength, UInt8.toNat_ofNat',
      Nat.mod_eq_of_lt (by omega), if_pos short]
  · rw [if_neg short, List.cons_append, readLength]
    have count : (bigEndian length).length ≤ 126 := by
      rw [bigEndian_length, Nat.digits_length_le_iff (by norm_num)]
      exact fits
    have octet : (UInt8.ofNat (0x80 + (bigEndian length).length)).toNat =
        128 + (bigEndian length).length := by
      rw [UInt8.toNat_ofNat', Nat.mod_eq_of_lt (by omega)]
    have definite : UInt8.ofNat (0x80 + (bigEndian length).length) ≠ 0xff := by
      intro same
      have sizes := congrArg UInt8.toNat same
      rw [octet] at sizes
      have reserved : (0xff : UInt8).toNat = 255 := rfl
      omega
    have taken : (bigEndian length ++ rest).take (bigEndian length).length = bigEndian length :=
      List.take_left
    have least : (bigEndian length).head?.getD 0 ≠ 0 := by
      cases octets : bigEndian length with
      | nil =>
          rw [bigEndian_eq_nil] at octets
          omega
      | cons first others => exact (bigEndian_bounds octets).1
    simp only [octet, Nat.add_sub_cancel_left, taken, ofBigEndian_bigEndian, List.drop_left]
    rw [if_neg (by omega), if_neg]
    rintro (reserved | missing | leading | small)
    · exact definite reserved
    · exact absurd missing (Nat.lt_irrefl _)
    · exact least leading
    · omega

theorem decode_tlv {tag : UInt8} (one : tag &&& 0x1f ≠ 0x1f) {body : List UInt8}
    (fits : body.length < 256 ^ 126) : decode (tlv tag body) = some ([tag], body, []) := by
  have length := readLength_written fits body
  simp only [decode, tlv, readTag_one one, length, Option.bind_eq_bind, Option.bind_some,
    Nat.lt_irrefl, if_false, List.take_length, List.drop_length]

/-- A strictly read value has the tag and the length that are read. -/
theorem decode_parts {octets tag body : List UInt8} (decoded : decode octets = some (tag, body, [])) :
    ∃ rest, readTag octets = some (tag, rest) ∧ readLength rest = some (body.length, body) := by
  simp only [decode, Option.bind_eq_bind, Option.bind_eq_some_iff] at decoded
  obtain ⟨⟨first, rest⟩, tagged, ⟨length, contents⟩, sized, taken⟩ := decoded
  split at taken
  · cases taken
  · rename_i enough
    simp only [Option.some.injEq, Prod.mk.injEq, List.drop_eq_nil_iff] at taken
    obtain ⟨rfl, same, nothing⟩ := taken
    have whole : length = contents.length :=
      Nat.le_antisymm (Nat.le_of_not_lt enough) nothing
    subst whole
    rw [List.take_length] at same
    subst same
    exact ⟨rest, tagged, sized⟩

end Der
