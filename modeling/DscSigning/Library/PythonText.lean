/-
JSON on one line and in ASCII, as Python's encoder writes it.

A character outside the printable ones is escaped, and one beyond sixteen bits
becomes two halves.  The machines that read JSON text read it back, so two
values that are written alike are the same value.
-/

import DscSigning.Library.JsonText

namespace JsonText

/-! ### Writing -/

def highHalf (code : Nat) : Nat := 0xD800 + (code - 0x10000) / 0x400

def lowHalf (code : Nat) : Nat := 0xDC00 + (code - 0x10000) % 0x400

/-- `py_encode_basestring_ascii` of one character -/
def asciiEscape (c : Char) : List Char :=
  match letters.lookup c with
  | some letter => [backslash, letter]
  | none =>
      if 32 ≤ c.toNat ∧ c.toNat < 127 then [c]
      else if c.toNat < 0x10000 then unicodeEscape c.toNat
      else unicodeEscape (highHalf c.toNat) ++ unicodeEscape (lowHalf c.toNat)

/-- Without line breaks only the tokens that are no texts are used of this. -/
def bare : Writer :=
  { indent := []
    blank := by simp
    guarded := fun _ => false
    short := by simp }

def asciiToken : Token → List Char
  | .text value => quote :: (value.toList.flatMap asciiEscape ++ [quote])
  | token => bare.token token

def lineGap : Token → List Char
  | .colon => [' ']
  | .comma => [' ']
  | _ => []

def lineOf (tokens : List Token) : List Char :=
  tokens.flatMap fun token => asciiToken token ++ lineGap token

def Value.line (value : Value) : String := String.ofList (lineOf value.tokens)

/-! ### What is written reads back -/

variable {c : Char}

/-- What the first machine keeps of a character. -/
def pieces (c : Char) : List Piece :=
  if c.toNat < 0x10000 then [.char c] else [.half (highHalf c.toNat), .half (lowHalf c.toNat)]

theorem pieces_short (short : c.toNat < 0x10000) : pieces c = [.char c] := if_pos short

theorem pieces_long (long : ¬ c.toNat < 0x10000) :
    pieces c = [.half (highHalf c.toNat), .half (lowHalf c.toNat)] :=
  if_neg long

theorem halves_bound (c : Char) : highHalf c.toNat < 0xDC00 ∧ lowHalf c.toNat < 0xE000 := by
  have valid : c.toNat < 0x110000 := by
    rcases c.valid with low | high
    · exact Nat.lt_trans low (by decide)
    · exact high.2
  unfold highHalf lowHalf
  omega

theorem piece_half {code : Nat} (above : 0xD800 ≤ code) (below : code ≤ 0xDFFF) :
    piece code = .half code := by
  rw [piece, if_pos ⟨above, below⟩]

theorem scan_halves (read : List Piece) (long : ¬ c.toNat < 0x10000) (rest : List Char) :
    (Mode.text read).scan
        (unicodeEscape (highHalf c.toNat) ++ unicodeEscape (lowHalf c.toNat) ++ rest) =
      (Mode.text ((pieces c).reverse ++ read)).scan rest := by
  obtain ⟨high, low⟩ := halves_bound c
  have highFrom : 0xD800 ≤ highHalf c.toNat := Nat.le_add_right _ _
  have lowFrom : 0xDC00 ≤ lowHalf c.toNat := Nat.le_add_right _ _
  rw [List.append_assoc, scan_code _ (by omega), scan_code _ (by omega),
    piece_half highFrom (by omega), piece_half (by omega) (by omega), pieces_long long]
  rfl

theorem scan_ascii (c : Char) (read : List Piece) (rest : List Char) :
    (Mode.text read).scan (asciiEscape c ++ rest) =
      (Mode.text ((pieces c).reverse ++ read)).scan rest := by
  unfold asciiEscape
  cases found : letters.lookup c with
  | some letter =>
      have short : c.toNat < 0x10000 := by
        have all : ∀ entry ∈ letters, entry.1.toNat < 0x10000 := by decide
        obtain ⟨before, after, same, _⟩ := List.lookup_eq_some_iff.mp found
        exact all (c, letter) (by rw [same]; simp)
      rw [pieces_short short]
      exact scan_letter found read rest
  | none =>
      simp only
      split
      · rename_i printable
        have short : c.toNat < 0x10000 := by omega
        rw [pieces_short short]
        exact scan_plain found (by omega) read rest
      · split
        · rename_i short
          rw [pieces_short short]
          exact scan_unicode read short rest
        · rename_i long
          exact scan_halves read long rest

theorem scan_asciis (chars : List Char) (read : List Piece) (rest : List Char) :
    (Mode.text read).scan (chars.flatMap asciiEscape ++ rest) =
      (Mode.text ((chars.flatMap pieces).reverse ++ read)).scan rest := by
  induction chars generalizing read with
  | nil => rfl
  | cons c chars ih =>
      rw [List.flatMap_cons, List.append_assoc, scan_ascii, ih, List.flatMap_cons,
        List.reverse_append, List.append_assoc]

/-- The two halves of a character make it again. -/
theorem resolve_pieces (chars : List Char) : resolve (chars.flatMap pieces) = chars := by
  induction chars with
  | nil => rfl
  | cons c chars ih =>
      rw [List.flatMap_cons]
      by_cases short : c.toNat < 0x10000
      · rw [pieces_short short, List.singleton_append, resolve, ih]
      · have lowFrom : 0xDC00 ≤ lowHalf c.toNat := Nat.le_add_right _ _
        have code : 0x10000 + (highHalf c.toNat - 0xD800) * 0x400 + (lowHalf c.toNat - 0xDC00) =
            c.toNat := by
          unfold highHalf lowHalf
          omega
        rw [pieces_long short]
        simp only [List.cons_append, List.nil_append, resolve]
        rw [if_pos ⟨(halves_bound c).1, lowFrom⟩, code, Char.ofNat_toNat, ih]

theorem scan_asciiToken {token : Token} (plain : token.plain = true) (rest : List Char) :
    Mode.idle.scan (asciiToken token ++ rest) = (Mode.idle.scan rest).map (token :: ·) := by
  cases token with
  | text value =>
      have opened : Mode.idle.step quote = some ([], .text []) := by rfl
      have closed : (Mode.text (value.toList.flatMap pieces).reverse).step quote =
          some ([.text value], .idle) := by
        simp only [Mode.step, List.reverse_reverse, resolve_pieces, String.ofList_toList,
          beq_self_eq_true, if_true]
      rw [asciiToken, List.cons_append, scan_silent opened, List.append_assoc, scan_asciis,
        List.append_nil]
      exact scan_step closed rest
  | atom word => cases plain
  | _ => exact @scan_token bare _ plain rest

theorem scan_lineGap (token : Token) (rest : List Char) :
    Mode.idle.scan (lineGap token ++ rest) = Mode.idle.scan rest := by
  cases token with
  | colon => exact scan_silent rfl rest
  | comma => exact scan_silent rfl rest
  | _ => rfl

theorem scan_line (tokens : List Token) (plain : ∀ token ∈ tokens, token.plain = true) :
    Mode.idle.scan (lineOf tokens) = some tokens := by
  induction tokens with
  | nil => rfl
  | cons token rest ih =>
      have others := ih fun other member => plain other (by simp [member])
      rw [lineOf, List.flatMap_cons, List.append_assoc, scan_asciiToken (plain token (by simp)),
        scan_lineGap]
      rw [lineOf] at others
      rw [others, Option.map_some]

theorem read_line {value : Value} (plain : ∀ token ∈ value.tokens, token.plain = true) :
    read value.line = some value := by
  have whole := run_tokens value plain [] []
  rw [List.append_nil] at whole
  rw [read, Value.line, String.toList_ofList, scan_line _ plain, Option.bind_some, whole]
  rfl

theorem line_inj {value other : Value} (plain : ∀ token ∈ value.tokens, token.plain = true)
    (plainToo : ∀ token ∈ other.tokens, token.plain = true) (same : value.line = other.line) :
    value = other := by
  have reads := read_line plain
  rw [same, read_line plainToo] at reads
  exact (Option.some.inj reads).symm

/-- No document is written as the empty text. -/
theorem object_line (members : List (String × Value)) : (Value.object members).line ≠ "" := by
  intro blank
  have chars := congrArg String.toList blank
  rw [Value.line, String.toList_ofList] at chars
  cases members <;> cases chars

end JsonText
