/-
The values the application and the bridge pass around: bytes, raised
exceptions, nullable text, JSON, and floats as far as they are compared.
-/

import Mathlib.Data.Rat.Defs
import DscSigning.Library.Base64

namespace DscSigning

abbrev Bytes : Type := List UInt8

/-- A raised exception: its class and its `str()`. -/
structure Exn where
  kind : String
  message : String
deriving DecidableEq, Repr

/-- `frappe.throw` -/
def thrown (message : String) : Exn := ⟨"ValidationError", message⟩

/-- A computation that succeeds has succeeded in its first part. -/
theorem bind_ok {Value Result : Type} {first : Except Exn Value}
    {next : Value → Except Exn Result} {result : Result}
    (succeeds : (first >>= next) = .ok result) :
    ∃ value, first = .ok value ∧ next value = .ok result := by
  cases first with
  | error exn => cases succeeds
  | ok value => exact ⟨value, rfl, succeeds⟩

/-! ### Text -/

/-- A nullable text column or an optional argument. -/
abbrev Text : Type := Option String

/-- Python's truth value of the text. -/
def Text.given : Text → Bool
  | some value => value != ""
  | none => false

/-- `text or other` -/
def Text.orElse (text other : Text) : Text := if text.given then text else other

/-- `text or value`, with a value that is never `None`. -/
def Text.orValue (text : Text) (value : String) : String :=
  if text.given then text.getD value else value

theorem orValue_ne {text : Text} {value : String} (nonempty : value ≠ "") :
    text.orValue value ≠ "" := by
  unfold Text.orValue
  split
  · rename_i given
    cases text with
    | none => cases given
    | some inner => simpa [Text.given] using given
  · exact nonempty

/-- `text[:count]` -/
def clip (text : String) (count : Nat) : String := String.ofList (text.toList.take count)

def lower (text : String) : String := String.ofList (text.toList.map Char.toLower)

def Text.show : Text → String
  | some value => value
  | none => "None"

/-! ### Bytes -/

def hexDigit (value : Nat) : Char :=
  "0123456789abcdef".toList.getD value '0'

/-- `.hex()` and `.hexdigest()` -/
def hex (bytes : Bytes) : String :=
  String.ofList (bytes.flatMap fun byte =>
    [hexDigit (byte.toNat / 16), hexDigit (byte.toNat % 16)])

theorem hexDigit_inj {left right : Nat} (small : left < 16) (bound : right < 16)
    (same : hexDigit left = hexDigit right) : left = right := by
  have all : ∀ one other : Fin 16, hexDigit one = hexDigit other → one = other := by decide
  exact Fin.val_eq_of_eq (all ⟨left, small⟩ ⟨right, bound⟩ same)

theorem hexDigit_lower {value : Nat} (small : value < 16) :
    (hexDigit value).toLower = hexDigit value := by
  have all : ∀ one : Fin 16, (hexDigit one).toLower = hexDigit one := by decide
  exact all ⟨value, small⟩

theorem hex_cons (byte : UInt8) (rest : Bytes) :
    (hex (byte :: rest)).toList =
      hexDigit (byte.toNat / 16) :: hexDigit (byte.toNat % 16) :: (hex rest).toList := by
  simp [hex]

theorem hex_inj {left right : Bytes} (same : hex left = hex right) : left = right := by
  induction left generalizing right with
  | nil =>
      cases right with
      | nil => rfl
      | cons byte rest =>
          have lists := congrArg String.toList same
          rw [hex_cons] at lists
          cases lists
  | cons byte rest ih =>
      cases right with
      | nil =>
          have lists := congrArg String.toList same
          rw [hex_cons] at lists
          cases lists
      | cons other others =>
          have lists := congrArg String.toList same
          rw [hex_cons, hex_cons] at lists
          obtain ⟨high, lists⟩ := List.cons.inj lists
          obtain ⟨low, tail⟩ := List.cons.inj lists
          have bound := byte.toNat_lt
          have otherBound := other.toNat_lt
          have quotient := hexDigit_inj (by omega) (by omega) high
          have remainder := hexDigit_inj (by omega) (by omega) low
          have value : byte = other := UInt8.toNat.inj (by omega)
          rw [value, ih (String.toList_inj.mp tail)]

theorem hex_given {bytes : Bytes} (nonempty : bytes ≠ []) : Text.given (some (hex bytes)) = true := by
  cases bytes with
  | nil => exact absurd rfl nonempty
  | cons byte rest =>
      simp only [Text.given, bne_iff_ne, ne_eq]
      intro blank
      have lists := congrArg String.toList blank
      rw [hex_cons] at lists
      cases lists

theorem lower_hex (bytes : Bytes) : lower (hex bytes) = hex bytes := by
  induction bytes with
  | nil => rfl
  | cons byte rest ih =>
      apply String.toList_inj.mp
      have tail := congrArg String.toList ih
      simp only [lower, String.toList_ofList] at tail ⊢
      have bound := byte.toNat_lt
      rw [hex_cons, List.map_cons, List.map_cons, hexDigit_lower (by omega),
        hexDigit_lower (by omega), tail]

/-- `base64.b64decode` -/
def b64decode (text : String) : Except Exn Bytes :=
  match Base64.decode text with
  | .ok bytes => .ok bytes
  | .error .nonAscii =>
      .error ⟨"ValueError", "string argument should contain only ASCII characters"⟩
  | .error .oneTooMany =>
      .error ⟨"Error", "Invalid base64-encoded string: number of data characters " ++
        "cannot be 1 more than a multiple of 4"⟩
  | .error .padding => .error ⟨"Error", "Incorrect padding"⟩

def utf8 (text : String) : Bytes := text.toUTF8.toList

theorem bytes_loop (bytes : ByteArray) (index : Nat) (read : List UInt8) :
    ByteArray.toList.loop bytes index read = read.reverse ++ bytes.data.toList.drop index := by
  fun_induction ByteArray.toList.loop bytes index read with
  | case1 index read inside ih =>
      have present : index < bytes.data.toList.length := inside
      rw [ih, List.reverse_cons, List.append_assoc, List.drop_eq_getElem_cons present]
      rw [List.singleton_append]
      congr 2
      exact getElem!_pos bytes.data index inside
  | case2 index read outside =>
      have absent : bytes.data.toList.length ≤ index := Nat.le_of_not_lt outside
      rw [List.drop_eq_nil_of_le absent, List.append_nil]

theorem utf8_inj {left right : String} (same : utf8 left = utf8 right) : left = right := by
  have lists : left.toByteArray.data.toList = right.toByteArray.data.toList := by
    simpa [utf8, ByteArray.toList, bytes_loop] using same
  exact String.toByteArray_inj.mp (ByteArray.ext (Array.toList_inj.mp lists))

/-! ### Numbers and JSON -/

theorem nat_repr_inj {left right : Nat} (same : Nat.repr left = Nat.repr right) : left = right := by
  have digits := congrArg (fun text => Nat.ofDigitChars 10 text.toList 0) same
  simpa only [Nat.toList_repr, Nat.ofDigitChars_ten_toDigits] using digits

theorem nat_repr_unsigned {number : Nat} {text : String} : Nat.repr number ≠ "-" ++ text := by
  intro same
  have sign : '-' ∈ (Nat.repr number).toList := by
    rw [same, String.toList_append]
    exact List.mem_append_left _ (by decide)
  rw [Nat.toList_repr] at sign
  have digit := Nat.isDigit_of_mem_toDigits (by decide) (by decide) sign
  revert digit
  decide

theorem int_text_inj {left right : Int} (same : toString left = toString right) :
    left = right := by
  rw [Int.toString_eq_repr, Int.toString_eq_repr, Int.repr_eq_if, Int.repr_eq_if] at same
  split at same <;> split at same
  · have values := nat_repr_inj same
    omega
  · exact absurd same nat_repr_unsigned
  · exact absurd same.symm nat_repr_unsigned
  · have values := nat_repr_inj (String.append_right_inj "-" |>.mp same)
    omega

/-- A Python float; the finite ones by their value. -/
inductive PyFloat where
  | finite (value : ℚ)
  | infinite (negative : Bool)
  | nan
deriving DecidableEq

inductive Json where
  | null
  | bool (value : Bool)
  | int (value : Int)
  | number (value : PyFloat)
  | text (value : String)
  | list (items : List Json)
  | object (fields : List (String × Json))

def Json.ofText : Text → Json
  | some value => .text value
  | none => .null

def Json.ofFlag : Option Bool → Json
  | some value => .bool value
  | none => .null

/-! ### Time -/

/-- A date and time in microseconds. -/
abbrev Instant : Type := Nat

def seconds (count : Nat) : Instant := count * 1000000

/-- `getdate` -/
def Instant.day (instant : Instant) : Nat := instant / seconds 86400

end DscSigning
