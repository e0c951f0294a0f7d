/-
The DER encoders of the bridge, read back.

Two octets are written for every length from 256 on, and zero is left without
contents; otherwise a strict reader finds what was given.
-/

import DscSigning.Bridge.OcspRequest

namespace DscSigning.Bridge

/-- With two octets no length of more than two is read. -/
theorem readLength_two {high low : UInt8} {body rest : Bytes} {length : Nat}
    (read : Der.readLength (0x82 :: high :: low :: body) = some (length, rest)) :
    length < 65536 := by
  rw [Der.readLength, if_neg (by decide)] at read
  have two : (high :: low :: body).take ((0x82 : UInt8).toNat - 128) = [high, low] := rfl
  simp only [two] at read
  split at read
  · cases read
  · simp only [Option.some.injEq, Prod.mk.injEq] at read
    rw [← read.1]
    exact (Der.ofBigEndian_lt [high, low]).trans_eq (by norm_num)

theorem asn1Wrap_long (tag : UInt8) {contents : List Bytes} (long : 65536 ≤ contents.flatten.length) :
    ∃ high low, asn1Wrap tag contents = tag :: 0x82 :: high :: low :: contents.flatten := by
  have first : ¬ contents.flatten.length < 128 := by omega
  have second : ¬ contents.flatten.length < 256 := by omega
  simp only [asn1Wrap, if_neg first, if_neg second]
  exact ⟨_, _, rfl⟩

theorem asn1Wrap_head (tag : UInt8) (contents : List Bytes) :
    ∃ rest, asn1Wrap tag contents = tag :: rest := by
  simp only [asn1Wrap]
  split
  · exact ⟨_, rfl⟩
  · split
    · exact ⟨_, rfl⟩
    · exact ⟨_, rfl⟩

/-- What is wrapped is read back exactly if the tag is one of one octet and two octets hold the
length. -/
theorem asn1Wrap_decodes {tag : UInt8} {contents : List Bytes} :
    Der.decode (asn1Wrap tag contents) = some ([tag], contents.flatten, []) ↔
      tag &&& 0x1f ≠ 0x1f ∧ contents.flatten.length < 65536 := by
  constructor
  · intro decoded
    obtain ⟨rest, tagged, sized⟩ := Der.decode_parts decoded
    obtain ⟨written, begins⟩ := asn1Wrap_head tag contents
    have one : tag &&& 0x1f ≠ 0x1f := by
      intro more
      rw [begins] at tagged
      have octets := Der.readTag_more more tagged
      simp at octets
    refine ⟨one, Nat.lt_of_not_le fun long => ?_⟩
    obtain ⟨high, low, wrapped⟩ := asn1Wrap_long tag long
    rw [wrapped, Der.readTag_one one, Option.some.injEq, Prod.mk.injEq] at tagged
    rw [← tagged.2] at sized
    exact absurd (readLength_two sized) (Nat.not_lt_of_le long)
  · rintro ⟨one, small⟩
    rw [asn1Wrap_eq_tlv tag small]
    exact Der.decode_tlv one (small.trans (by norm_num))

/-- The integers whose contents two octets can say the length of. -/
def integerLimit : Nat := 128 * 256 ^ 65534

theorem asn1Integer_encodes (number : Nat) :
    asn1Integer (Der.bigEndian number) = Der.integer number ↔
      0 < number ∧ number < integerLimit := by
  rcases Nat.eq_zero_or_pos number with rfl | positive
  · refine iff_of_false ?_ fun both => absurd both.1 (Nat.lt_irrefl 0)
    rw [asn1Integer_zero]
    decide
  · have limit : number < integerLimit ↔ (Der.unsigned number).length < 65536 := by
      rw [integerLimit, ← Der.unsigned_length_le, Nat.lt_succ_iff]
    rw [asn1Integer_eq positive.ne', limit, Der.integer]
    constructor
    · intro same
      have shorter : [Der.unsigned number].flatten.length ≤ (Der.unsigned number).length := by
        rw [List.flatten_singleton]
      exact ⟨positive, (asn1Wrap_exact shorter (congrArg List.length same)).2⟩
    · rintro ⟨_, small⟩
      rw [asn1Wrap_eq_tlv 0x02 (by rwa [List.flatten_singleton]), List.flatten_singleton]

/-- The encoders are right for values of less than 65536 octets under tags of one octet, and for
integers of that size from one on. -/
theorem encoders_correct_iff (tag : UInt8) (contents : List Bytes) (number : Nat) :
    (Der.decode (asn1Wrap tag contents) = some ([tag], contents.flatten, []) ↔
      tag &&& 0x1f ≠ 0x1f ∧ contents.flatten.length < 65536) ∧
    (asn1Integer (Der.bigEndian number) = Der.integer number ↔
      0 < number ∧ number < integerLimit) :=
  ⟨asn1Wrap_decodes, asn1Integer_encodes number⟩

/-- Zero, and 65536 octets. -/
theorem encoders_wrong :
    asn1Integer (Der.bigEndian 0) ≠ Der.integer 0 ∧
      Der.decode (asn1Wrap 0x04 [List.replicate 65536 0]) ≠
        some ([0x04], [List.replicate 65536 0].flatten, []) := by
  constructor
  · decide
  · intro decoded
    have small := (asn1Wrap_decodes.mp decoded).2
    rw [List.flatten_singleton, List.length_replicate] at small
    exact Nat.lt_irrefl _ small

end DscSigning.Bridge
