/-
JSON documents as text.

A writer lays a value out as tokens with line breaks and indentation.  Text is
read by two machines: one makes tokens of characters, the other a value of
tokens.  What the writer writes of a value of texts, lists and objects, they
read back.
-/

import Mathlib.Algebra.GroupWithZero.Nat
import Mathlib.Data.List.Basic

namespace JsonText

/-- An atom is a number, `true`, `false` or `null`, as it is written. -/
inductive Value where
  | atom (word : String)
  | text (value : String)
  | list (items : List Value)
  | object (members : List (String × Value))

inductive Token where
  | openBrace
  | closeBrace
  | openBracket
  | closeBracket
  | colon
  | comma
  | text (value : String)
  | atom (word : String)
deriving DecidableEq

/-! ### Writing -/

def quote : Char := Char.ofNat 34

def backslash : Char := Char.ofNat 92

def isSpace (c : Char) : Bool := c == ' ' || c == '\t' || c == '\n' || c == '\r'

/-- How a writer indents, and which characters it escapes though it need not. -/
structure Writer where
  indent : List Char
  blank : ∀ c ∈ indent, isSpace c = true
  guarded : Char → Bool
  short : ∀ c, guarded c = true → c.toNat < 65536

def hexDigit (value : Nat) : Char := "0123456789abcdef".toList.getD value '0'

def unicodeEscape (code : Nat) : List Char :=
  [backslash, 'u', hexDigit (code / 4096 % 16), hexDigit (code / 256 % 16),
    hexDigit (code / 16 % 16), hexDigit (code % 16)]

/-- The characters with an escape of their own, and its letter. -/
def letters : List (Char × Char) :=
  [(quote, quote), (backslash, backslash), (Char.ofNat 8, 'b'), (Char.ofNat 12, 'f'), ('\n', 'n'),
    ('\r', 'r'), ('\t', 't')]

variable (writer : Writer)

def Writer.escape (c : Char) : List Char :=
  match letters.lookup c with
  | some letter => [backslash, letter]
  | none => if c.toNat < 32 || writer.guarded c then unicodeEscape c.toNat else [c]

def Writer.token : Token → List Char
  | .openBrace => ['{']
  | .closeBrace => ['}']
  | .openBracket => ['[']
  | .closeBracket => [']']
  | .colon => [':']
  | .comma => [',']
  | .text value => quote :: (value.toList.flatMap writer.escape ++ [quote])
  | .atom word => word.toList

def Token.opens : Token → Bool
  | .openBrace => true
  | .openBracket => true
  | _ => false

def Token.closes : Token → Bool
  | .closeBrace => true
  | .closeBracket => true
  | _ => false

def Writer.newline (depth : Nat) : List Char := '\n' :: (List.replicate depth writer.indent).flatten

/-- What stands after a token before the next one. -/
def Writer.gap (depth : Nat) : Token → List Char
  | .colon => [' ']
  | .comma => writer.newline depth
  | _ => []

/-- Tokens with line breaks; after an opening one the break is delayed, so that an
empty list or object stays on its line. -/
def Writer.layout (depth : Nat) (delayed : Bool) : List Token → List Char
  | [] => []
  | token :: rest =>
      if token.closes then
        if delayed then writer.token token ++ layout depth false rest
        else writer.newline (depth - 1) ++ (writer.token token ++ layout (depth - 1) false rest)
      else if delayed then
        writer.newline (depth + 1) ++ (writer.token token ++
          (writer.gap (depth + 1) token ++ layout (depth + 1) token.opens rest))
      else writer.token token ++ (writer.gap depth token ++ layout depth token.opens rest)

mutual

def Value.tokens : Value → List Token
  | .atom word => [.atom word]
  | .text value => [.text value]
  | .list [] => [.openBracket, .closeBracket]
  | .list (item :: rest) => .openBracket :: (item.tokens ++ moreItems rest)
  | .object [] => [.openBrace, .closeBrace]
  | .object (member :: rest) => .openBrace :: (memberTokens member ++ moreMembers rest)

def memberTokens : String × Value → List Token
  | (key, value) => .text key :: .colon :: value.tokens

/-- The rest of a list, with its end. -/
def moreItems : List Value → List Token
  | [] => [.closeBracket]
  | item :: rest => .comma :: (item.tokens ++ moreItems rest)

/-- The rest of an object, with its end. -/
def moreMembers : List (String × Value) → List Token
  | [] => [.closeBrace]
  | member :: rest => .comma :: (memberTokens member ++ moreMembers rest)

end

def Writer.write (value : Value) : String := String.ofList (writer.layout 0 false value.tokens)

/-! ### Tokens -/

/-- A piece of a text: a character, or half of one in UTF-16. -/
inductive Piece where
  | char (c : Char)
  | half (code : Nat)

def piece (code : Nat) : Piece :=
  if 0xD800 ≤ code ∧ code ≤ 0xDFFF then .half code else .char (Char.ofNat code)

/-- Two halves that belong together make a character, others a replacement. -/
def resolve : List Piece → List Char
  | [] => []
  | .char c :: rest => c :: resolve rest
  | .half high :: .half low :: rest =>
      if high < 0xDC00 ∧ 0xDC00 ≤ low then
        Char.ofNat (0x10000 + (high - 0xD800) * 0x400 + (low - 0xDC00)) :: resolve rest
      else Char.ofNat 0xFFFD :: resolve (.half low :: rest)
  | .half _ :: rest => Char.ofNat 0xFFFD :: resolve rest

/-- Where the first machine stands; what it has read is kept in reverse. -/
inductive Mode where
  | idle
  | text (read : List Piece)
  | escape (read : List Piece)
  /-- In a numeric escape, with the number of digits that are still to come. -/
  | unicode (read : List Piece) (left code : Nat)
  | atom (read : List Char)

def isWord (c : Char) : Bool := c.isAlphanum || c == '+' || c == '-' || c == '.'

def opening (c : Char) : Option (List Token × Mode) :=
  if isSpace c then some ([], .idle)
  else if c == quote then some ([], .text [])
  else if isWord c then some ([], .atom [c])
  else
    match c with
    | '{' => some ([.openBrace], .idle)
    | '}' => some ([.closeBrace], .idle)
    | '[' => some ([.openBracket], .idle)
    | ']' => some ([.closeBracket], .idle)
    | ':' => some ([.colon], .idle)
    | ',' => some ([.comma], .idle)
    | _ => none

/-- The character of a one-letter escape. -/
def unescape (letter : Char) : Option Char :=
  if letter == '/' then some '/'
  else (letters.find? fun entry => entry.2 == letter).map Prod.fst

def hexValue (c : Char) : Option Nat :=
  if '0' ≤ c ∧ c ≤ '9' then some (c.toNat - 48)
  else if 'a' ≤ c ∧ c ≤ 'f' then some (c.toNat - 87)
  else if 'A' ≤ c ∧ c ≤ 'F' then some (c.toNat - 55)
  else none

def Mode.step : Mode → Char → Option (List Token × Mode)
  | .idle, c => opening c
  | .text read, c =>
      if c == quote then some ([.text (String.ofList (resolve read.reverse))], .idle)
      else if c == backslash then some ([], .escape read)
      else if c.toNat < 32 then none
      else some ([], .text (.char c :: read))
  | .escape read, c =>
      if c == 'u' then some ([], .unicode read 3 0)
      else (unescape c).map fun plain => ([], .text (.char plain :: read))
  | .unicode read left code, c => (hexValue c).map fun digit =>
      match left with
      | 0 => ([], .text (piece (code * 16 + digit) :: read))
      | left + 1 => ([], .unicode read left (code * 16 + digit))
  | .atom read, c =>
      if isWord c then some ([], .atom (c :: read))
      else (opening c).map fun opened => (.atom (String.ofList read.reverse) :: opened.1, opened.2)

def Mode.finish : Mode → Option (List Token)
  | .idle => some []
  | .atom read => some [.atom (String.ofList read.reverse)]
  | _ => none

def Mode.scan (mode : Mode) : List Char → Option (List Token)
  | [] => mode.finish
  | c :: rest => (mode.step c).bind fun made => (made.2.scan rest).map (made.1 ++ ·)

/-! ### Values -/

def isDigits (chars : List Char) : Bool := !chars.isEmpty && chars.all Char.isDigit

def isExponent : List Char → Bool
  | [] => true
  | mark :: '+' :: rest => (mark == 'e' || mark == 'E') && isDigits rest
  | mark :: '-' :: rest => (mark == 'e' || mark == 'E') && isDigits rest
  | mark :: rest => (mark == 'e' || mark == 'E') && isDigits rest

def isFraction : List Char → Bool
  | '.' :: digit :: rest => digit.isDigit && isExponent (rest.dropWhile Char.isDigit)
  | rest => isExponent rest

def isUnsigned : List Char → Bool
  | '0' :: rest => isFraction rest
  | digit :: rest => digit.isDigit && isFraction (rest.dropWhile Char.isDigit)
  | [] => false

def isNumber : List Char → Bool
  | '-' :: rest => isUnsigned rest
  | chars => isUnsigned chars

def isAtom (word : String) : Bool :=
  word == "null" || word == "true" || word == "false" || isNumber word.toList

/-- A list or an object around the value that is being read. -/
inductive Frame where
  | list (before : List Value)
  | member (before : List (String × Value)) (key : String)

/-- Where the second machine stands. -/
inductive Stage where
  | value (stack : List Frame)
  | firstItem (stack : List Frame)
  | firstKey (stack : List Frame)
  | key (stack : List Frame) (before : List (String × Value))
  | colon (stack : List Frame) (before : List (String × Value)) (key : String)
  | after (stack : List Frame) (value : Value)

def begin_ (stack : List Frame) : Token → Option Stage
  | .openBrace => some (.firstKey stack)
  | .openBracket => some (.firstItem stack)
  | .text value => some (.after stack (.text value))
  | .atom word => if isAtom word then some (.after stack (.atom word)) else none
  | _ => none

def Stage.step : Stage → Token → Option Stage
  | .value stack, token => begin_ stack token
  | .firstItem stack, .closeBracket => some (.after stack (.list []))
  | .firstItem stack, token => begin_ (.list [] :: stack) token
  | .firstKey stack, .closeBrace => some (.after stack (.object []))
  | .firstKey stack, .text name => some (.colon stack [] name)
  | .key stack before, .text name => some (.colon stack before name)
  | .colon stack before name, .colon => some (.value (.member before name :: stack))
  | .after (.list before :: stack) item, .comma => some (.value (.list (item :: before) :: stack))
  | .after (.list before :: stack) item, .closeBracket =>
      some (.after stack (.list (item :: before).reverse))
  | .after (.member before name :: stack) item, .comma => some (.key stack ((name, item) :: before))
  | .after (.member before name :: stack) item, .closeBrace =>
      some (.after stack (.object ((name, item) :: before).reverse))
  | _, _ => none

def Stage.run (stage : Stage) : List Token → Option Value
  | [] =>
      match stage with
      | .after [] document => some document
      | _ => none
  | token :: rest => (stage.step token).bind fun next => next.run rest

def read (text : String) : Option Value :=
  (Mode.idle.scan text.toList).bind fun tokens => (Stage.value []).run tokens

/-! ### What is written reads back -/

def Token.plain : Token → Bool
  | .atom _ => false
  | _ => true

section Tokens

variable {writer : Writer} {mode next : Mode} {c : Char} {made : List Token}

theorem scan_step (stepped : mode.step c = some (made, next)) (rest : List Char) :
    mode.scan (c :: rest) = (next.scan rest).map (made ++ ·) := by
  rw [Mode.scan, stepped, Option.bind_some]

theorem scan_silent (stepped : mode.step c = some ([], next)) (rest : List Char) :
    mode.scan (c :: rest) = next.scan rest := by
  rw [scan_step stepped]
  exact Option.map_id'

theorem scan_spaces {spaces : List Char} (blank : ∀ c ∈ spaces, isSpace c = true)
    (rest : List Char) : Mode.idle.scan (spaces ++ rest) = Mode.idle.scan rest := by
  induction spaces with
  | nil => rfl
  | cons c spaces ih =>
      have space : isSpace c = true := blank c (by simp)
      have stepped : Mode.idle.step c = some ([], .idle) := by
        simp only [Mode.step, opening, space, if_true]
      rw [List.cons_append, scan_silent stepped]
      exact ih fun other member => blank other (by simp [member])

theorem scan_newline (depth : Nat) (rest : List Char) :
    Mode.idle.scan (writer.newline depth ++ rest) = Mode.idle.scan rest := by
  apply scan_spaces
  intro c member
  cases member with
  | head => rfl
  | tail _ member =>
      obtain ⟨indent, copies, inside⟩ := List.mem_flatten.mp member
      rw [List.eq_of_mem_replicate copies] at inside
      exact writer.blank c inside

theorem scan_gap (depth : Nat) (token : Token) (rest : List Char) :
    Mode.idle.scan (writer.gap depth token ++ rest) = Mode.idle.scan rest := by
  cases token with
  | comma => exact scan_newline depth rest
  | colon => exact scan_silent rfl rest
  | _ => rfl

theorem hexValue_digit (value : Nat) : hexValue (hexDigit (value % 16)) = some (value % 16) := by
  have digits : ∀ digit < 16, hexValue (hexDigit digit) = some digit := by decide
  exact digits (value % 16) (Nat.mod_lt value (by decide))

/-- A character is no half of one. -/
theorem piece_char (c : Char) : piece c.toNat = .char c := by
  have valid := c.valid
  unfold piece
  rw [if_neg, Char.ofNat_toNat]
  rintro ⟨above, below⟩
  rcases valid with low | high
  · exact absurd low (Nat.not_lt.mpr above)
  · exact absurd high.1 (Nat.not_lt.mpr below)

theorem scan_code {code : Nat} (pieces : List Piece) (short : code < 65536) (rest : List Char) :
    (Mode.text pieces).scan (unicodeEscape code ++ rest) =
      (Mode.text (piece code :: pieces)).scan rest := by
  have escaped : (Mode.text pieces).step backslash = some ([], .escape pieces) := by rfl
  have coded : (Mode.escape pieces).step 'u' = some ([], .unicode pieces 3 0) := by rfl
  have digit (left read value : Nat) : (Mode.unicode pieces (left + 1) read).step
      (hexDigit (value % 16)) = some ([], .unicode pieces left (read * 16 + value % 16)) := by
    simp only [Mode.step, hexValue_digit, Option.map_some]
  have last (read value : Nat) : (Mode.unicode pieces 0 read).step (hexDigit (value % 16)) =
      some ([], .text (piece (read * 16 + value % 16) :: pieces)) := by
    simp only [Mode.step, hexValue_digit, Option.map_some]
  have whole : (((0 * 16 + code / 4096 % 16) * 16 + code / 256 % 16) * 16 +
      code / 16 % 16) * 16 + code % 16 = code := by
    omega
  simp only [unicodeEscape, List.cons_append, List.nil_append]
  rw [scan_silent escaped, scan_silent coded, scan_silent (digit 2 0 _),
    scan_silent (digit 1 _ _), scan_silent (digit 0 _ _), scan_silent (last _ _), whole]

theorem scan_unicode (pieces : List Piece) (short : c.toNat < 65536) (rest : List Char) :
    (Mode.text pieces).scan (unicodeEscape c.toNat ++ rest) =
      (Mode.text (.char c :: pieces)).scan rest := by
  rw [scan_code pieces short, piece_char]

theorem scan_letter {letter : Char} (found : letters.lookup c = some letter) (pieces : List Piece)
    (rest : List Char) :
    (Mode.text pieces).scan (backslash :: letter :: rest) =
      (Mode.text (.char c :: pieces)).scan rest := by
  have escaped : (Mode.text pieces).step backslash = some ([], .escape pieces) := by rfl
  have plain : (letter == 'u') = false ∧ unescape letter = some c := by
    have all : ∀ entry ∈ letters, (entry.2 == 'u') = false ∧ unescape entry.2 = some entry.1 := by
      decide
    obtain ⟨before, after, same, _⟩ := List.lookup_eq_some_iff.mp found
    exact all (c, letter) (by rw [same]; simp)
  have unescaped : (Mode.escape pieces).step letter = some ([], .text (.char c :: pieces)) := by
    simp only [Mode.step, plain.1, plain.2, Bool.false_eq_true, if_false, Option.map_some]
  rw [scan_silent escaped, scan_silent unescaped]

/-- A character that is written as itself. -/
theorem scan_plain (found : letters.lookup c = none) (above : ¬ c.toNat < 32)
    (pieces : List Piece) (rest : List Char) :
    (Mode.text pieces).scan ([c] ++ rest) = (Mode.text (.char c :: pieces)).scan rest := by
  have unquoted : (c == quote) = false := by
    by_contra quoted
    rw [Bool.not_eq_false, beq_iff_eq] at quoted
    rw [quoted] at found
    cases found
  have unslashed : (c == backslash) = false := by
    by_contra slashed
    rw [Bool.not_eq_false, beq_iff_eq] at slashed
    rw [slashed] at found
    cases found
  apply scan_silent
  simp only [Mode.step, unquoted, unslashed, above, Bool.false_eq_true, if_false]

theorem scan_escape (pieces : List Piece) (rest : List Char) :
    (Mode.text pieces).scan (writer.escape c ++ rest) =
      (Mode.text (.char c :: pieces)).scan rest := by
  unfold Writer.escape
  cases found : letters.lookup c with
  | some letter => exact scan_letter found pieces rest
  | none =>
      simp only
      split
      · rename_i escaped
        apply scan_unicode
        rcases Bool.or_eq_true_iff.mp escaped with control | guarded
        · have below := of_decide_eq_true control
          omega
        · exact writer.short c guarded
      · rename_i printable
        apply scan_plain found
        intro control
        exact printable (by simp [control])

theorem scan_escapes (chars : List Char) (pieces : List Piece) (rest : List Char) :
    (Mode.text pieces).scan (chars.flatMap writer.escape ++ rest) =
      (Mode.text ((chars.map Piece.char).reverse ++ pieces)).scan rest := by
  induction chars generalizing pieces with
  | nil => rfl
  | cons c chars ih =>
      rw [List.flatMap_cons, List.append_assoc, scan_escape, ih, List.map_cons, List.reverse_cons,
        List.append_assoc]
      rfl

theorem resolve_chars (chars : List Char) : resolve (chars.map Piece.char) = chars := by
  induction chars with
  | nil => rfl
  | cons c chars ih => rw [List.map_cons, resolve, ih]

theorem scan_token {token : Token} (plain : token.plain = true) (rest : List Char) :
    Mode.idle.scan (writer.token token ++ rest) =
      (Mode.idle.scan rest).map (token :: ·) := by
  cases token with
  | atom word => cases plain
  | text value =>
      have opened : Mode.idle.step quote = some ([], .text []) := by rfl
      have closed : (Mode.text (value.toList.map Piece.char).reverse).step quote =
          some ([.text value], .idle) := by
        simp only [Mode.step, List.reverse_reverse, resolve_chars, String.ofList_toList,
          beq_self_eq_true, if_true]
      rw [Writer.token, List.cons_append, scan_silent opened, List.append_assoc, scan_escapes,
        List.append_nil]
      exact scan_step closed rest
  | openBrace =>
      have stepped : Mode.idle.step '{' = some ([.openBrace], .idle) := by rfl
      exact scan_step stepped rest
  | closeBrace =>
      have stepped : Mode.idle.step '}' = some ([.closeBrace], .idle) := by rfl
      exact scan_step stepped rest
  | openBracket =>
      have stepped : Mode.idle.step '[' = some ([.openBracket], .idle) := by rfl
      exact scan_step stepped rest
  | closeBracket =>
      have stepped : Mode.idle.step ']' = some ([.closeBracket], .idle) := by rfl
      exact scan_step stepped rest
  | colon =>
      have stepped : Mode.idle.step ':' = some ([.colon], .idle) := by rfl
      exact scan_step stepped rest
  | comma =>
      have stepped : Mode.idle.step ',' = some ([.comma], .idle) := by rfl
      exact scan_step stepped rest

theorem scan_layout (tokens : List Token) (plain : ∀ token ∈ tokens, token.plain = true)
    (depth : Nat) (delayed : Bool) :
    Mode.idle.scan (writer.layout depth delayed tokens) = some tokens := by
  induction tokens generalizing depth delayed with
  | nil => rfl
  | cons token rest ih =>
      have single := plain token (by simp)
      have others := ih fun other member => plain other (by simp [member])
      unfold Writer.layout
      split
      · split
        · rw [scan_token single, others, Option.map_some]
        · rw [scan_newline, scan_token single, others, Option.map_some]
      · split
        · rw [scan_newline, scan_token single, scan_gap, others, Option.map_some]
        · rw [scan_token single, scan_gap, others, Option.map_some]

end Tokens

section Values

variable {stack : List Frame} {more : List Token}

theorem run_step {stage next : Stage} {token : Token} (stepped : stage.step token = some next)
    (rest : List Token) : stage.run (token :: rest) = next.run rest := by
  rw [Stage.run, stepped, Option.bind_some]

/-- A value does not begin with the end of a list. -/
theorem run_firstItem (item : Value) (rest : List Token) :
    (Stage.firstItem stack).run (item.tokens ++ rest) =
      (Stage.value (.list [] :: stack)).run (item.tokens ++ rest) := by
  cases item with
  | atom word => rfl
  | text value => rfl
  | list items => cases items <;> rfl
  | object members => cases members <;> rfl

/-- Tokens that are all plain, in two parts. -/
theorem plain_append {first second : List Token}
    (plain : ∀ token ∈ first ++ second, token.plain = true) :
    (∀ token ∈ first, token.plain = true) ∧ ∀ token ∈ second, token.plain = true :=
  ⟨fun token member => plain token (List.mem_append_left _ member),
    fun token member => plain token (List.mem_append_right _ member)⟩

theorem plain_tail {token : Token} {rest : List Token}
    (plain : ∀ other ∈ token :: rest, other.plain = true) :
    ∀ other ∈ rest, other.plain = true :=
  fun other member => plain other (List.mem_cons_of_mem _ member)

mutual

theorem run_tokens (value : Value) (plain : ∀ token ∈ value.tokens, token.plain = true)
    (stack : List Frame) (more : List Token) :
    (Stage.value stack).run (value.tokens ++ more) = (Stage.after stack value).run more :=
  match value with
  | .atom word => by cases plain (.atom word) (by simp [Value.tokens])
  | .text text => rfl
  | .list [] => rfl
  | .list (item :: rest) => by
      simp only [Value.tokens] at plain ⊢
      have parts := plain_append (plain_tail plain)
      have opened : (Stage.value stack).step .openBracket = some (.firstItem stack) := rfl
      rw [List.cons_append, run_step opened, List.append_assoc, run_firstItem,
        run_tokens item parts.1, run_moreItems rest parts.2]
      rfl
  | .object [] => rfl
  | .object ((name, item) :: rest) => by
      simp only [Value.tokens, memberTokens] at plain ⊢
      have parts := plain_append (plain_tail (plain_tail (plain_tail plain)))
      have opened : (Stage.value stack).step .openBrace = some (.firstKey stack) := rfl
      have named : (Stage.firstKey stack).step (.text name) = some (.colon stack [] name) := rfl
      have parted : (Stage.colon stack [] name).step .colon =
          some (.value (.member [] name :: stack)) := rfl
      simp only [List.cons_append, List.append_assoc]
      rw [run_step opened, run_step named, run_step parted, run_tokens item parts.1,
        run_moreMembers rest parts.2]
      rfl

theorem run_moreItems (rest : List Value) (plain : ∀ token ∈ moreItems rest, token.plain = true)
    (stack : List Frame) (before : List Value) (item : Value) (more : List Token) :
    (Stage.after (.list before :: stack) item).run (moreItems rest ++ more) =
      (Stage.after stack (.list (before.reverse ++ item :: rest))).run more :=
  match rest with
  | [] => by
      have closed : (Stage.after (.list before :: stack) item).step .closeBracket =
          some (.after stack (.list (item :: before).reverse)) := rfl
      rw [moreItems, List.singleton_append, run_step closed, List.reverse_cons]
  | next :: rest => by
      simp only [moreItems] at plain ⊢
      have parts := plain_append (plain_tail plain)
      have parted : (Stage.after (.list before :: stack) item).step .comma =
          some (.value (.list (item :: before) :: stack)) := rfl
      rw [List.cons_append, run_step parted, List.append_assoc, run_tokens next parts.1,
        run_moreItems rest parts.2, List.reverse_cons, List.append_assoc]
      rfl

theorem run_moreMembers (rest : List (String × Value))
    (plain : ∀ token ∈ moreMembers rest, token.plain = true) (stack : List Frame)
    (before : List (String × Value)) (name : String) (item : Value) (more : List Token) :
    (Stage.after (.member before name :: stack) item).run (moreMembers rest ++ more) =
      (Stage.after stack (.object (before.reverse ++ (name, item) :: rest))).run more :=
  match rest with
  | [] => by
      have closed : (Stage.after (.member before name :: stack) item).step .closeBrace =
          some (.after stack (.object ((name, item) :: before).reverse)) := rfl
      rw [moreMembers, List.singleton_append, run_step closed, List.reverse_cons]
  | (second, next) :: rest => by
      simp only [moreMembers, memberTokens] at plain ⊢
      have parts := plain_append (plain_tail (plain_tail (plain_tail plain)))
      have parted : (Stage.after (.member before name :: stack) item).step .comma =
          some (.key stack ((name, item) :: before)) := rfl
      have named : (Stage.key stack ((name, item) :: before)).step (.text second) =
          some (.colon stack ((name, item) :: before) second) := rfl
      have coloned : (Stage.colon stack ((name, item) :: before) second).step .colon =
          some (.value (.member ((name, item) :: before) second :: stack)) := rfl
      simp only [List.cons_append, List.append_assoc]
      rw [run_step parted, run_step named, run_step coloned, run_tokens next parts.1,
        run_moreMembers rest parts.2, List.reverse_cons, List.append_assoc]
      rfl

end

end Values

/-- A value of texts, lists and objects reads back as it was written. -/
theorem read_write {writer : Writer} {value : Value}
    (plain : ∀ token ∈ value.tokens, token.plain = true) :
    read (writer.write value) = some value := by
  have whole := run_tokens value plain [] []
  rw [List.append_nil] at whole
  rw [read, Writer.write, String.toList_ofList, scan_layout _ plain, Option.bind_some, whole]
  rfl

/-! ### Without spaces -/

/-- `JSON.stringify`, where the writer escapes only what it has to. -/
def Writer.compact (writer : Writer) (value : Value) : String :=
  String.ofList (value.tokens.flatMap writer.token)

theorem scan_compact {writer : Writer} (tokens : List Token)
    (plain : ∀ token ∈ tokens, token.plain = true) :
    Mode.idle.scan (tokens.flatMap writer.token) = some tokens := by
  induction tokens with
  | nil => rfl
  | cons token rest ih =>
      have others := ih fun other member => plain other (by simp [member])
      rw [List.flatMap_cons, scan_token (plain token (by simp)), others, Option.map_some]

theorem read_compact {writer : Writer} {value : Value}
    (plain : ∀ token ∈ value.tokens, token.plain = true) :
    read (writer.compact value) = some value := by
  have whole := run_tokens value plain [] []
  rw [List.append_nil] at whole
  rw [read, Writer.compact, String.toList_ofList, scan_compact _ plain, Option.bind_some, whole]
  rfl

/-! ### How much a text can hold -/

/-- A token that has been begun. -/
def Mode.pending : Mode → Nat
  | .idle => 0
  | _ => 1

theorem opening_pending {c : Char} {made : List Token} {next : Mode}
    (opened : opening c = some (made, next)) : made.length + next.pending ≤ 1 := by
  unfold opening at opened
  split at opened
  · cases opened
    decide
  · split at opened
    · cases opened
      decide
    · split at opened
      · cases opened
        exact Nat.le_refl 1
      · split at opened <;> cases opened <;> decide

/-- A character finishes at most the token that was begun, and one more. -/
theorem step_pending {mode next : Mode} {c : Char} {made : List Token}
    (stepped : mode.step c = some (made, next)) :
    made.length + next.pending ≤ mode.pending + 1 := by
  cases mode with
  | idle => exact opening_pending stepped
  | text read =>
      simp only [Mode.step] at stepped
      split at stepped
      · cases stepped
        exact Nat.le_succ 1
      · split at stepped
        · cases stepped
          exact Nat.le_succ 1
        · split at stepped
          · cases stepped
          · cases stepped
            exact Nat.le_succ 1
  | escape read =>
      simp only [Mode.step] at stepped
      split at stepped
      · cases stepped
        exact Nat.le_succ 1
      · obtain ⟨plain, _, same⟩ := Option.map_eq_some_iff.mp stepped
        cases same
        exact Nat.le_succ 1
  | unicode read left code =>
      obtain ⟨digit, _, same⟩ := Option.map_eq_some_iff.mp stepped
      cases left with
      | zero =>
          cases same
          exact Nat.le_succ 1
      | succ left =>
          cases same
          exact Nat.le_succ 1
  | atom read =>
      simp only [Mode.step] at stepped
      split at stepped
      · cases stepped
        exact Nat.le_succ 1
      · obtain ⟨⟨tokens, mode⟩, opened, same⟩ := Option.map_eq_some_iff.mp stepped
        cases same
        have more := opening_pending opened
        rw [List.length_cons]
        simp only [Mode.pending] at more ⊢
        omega

theorem scan_length {mode : Mode} {chars : List Char} {tokens : List Token}
    (scanned : mode.scan chars = some tokens) : tokens.length ≤ mode.pending + chars.length := by
  induction chars generalizing mode tokens with
  | nil =>
      cases mode with
      | idle =>
          cases scanned
          exact Nat.le_refl 0
      | atom read =>
          cases scanned
          exact Nat.le_refl 1
      | text read => cases scanned
      | escape read => cases scanned
      | unicode read left code => cases scanned
  | cons c rest ih =>
      obtain ⟨⟨made, next⟩, stepped, mapped⟩ := Option.bind_eq_some_iff.mp scanned
      obtain ⟨more, scannedRest, same⟩ := Option.map_eq_some_iff.mp mapped
      have one := step_pending stepped
      have others := ih scannedRest
      rw [← same, List.length_append, List.length_cons]
      simp only at one others ⊢
      omega

/-- The number of items or members. -/
def Value.width : Value → Nat
  | .list items => items.length
  | .object members => members.length
  | _ => 0

def Frame.held : Frame → Nat
  | .list before => before.length
  | .member before _ => before.length

/-- The items and members that are held, and one for a value that is complete. -/
def Stage.held : Stage → Nat
  | .value stack => (stack.map Frame.held).sum
  | .firstItem stack => (stack.map Frame.held).sum
  | .firstKey stack => (stack.map Frame.held).sum
  | .key stack before => before.length + (stack.map Frame.held).sum
  | .colon stack before _ => before.length + (stack.map Frame.held).sum
  | .after stack item => item.width + 1 + (stack.map Frame.held).sum

theorem begin_held {stack : List Frame} {token : Token} {next : Stage}
    (begun : begin_ stack token = some next) : next.held ≤ (stack.map Frame.held).sum + 1 := by
  cases token with
  | text value =>
      cases begun
      simp only [Stage.held, Value.width]
      omega
  | atom word =>
      simp only [begin_] at begun
      split at begun
      · cases begun
        simp only [Stage.held, Value.width]
        omega
      · cases begun
  | openBrace =>
      cases begun
      exact Nat.le_succ _
  | openBracket =>
      cases begun
      exact Nat.le_succ _
  | closeBrace => cases begun
  | closeBracket => cases begun
  | colon => cases begun
  | comma => cases begun

theorem step_held {stage next : Stage} {token : Token} (stepped : stage.step token = some next) :
    next.held ≤ stage.held + 1 := by
  cases stage with
  | value stack => exact begin_held stepped
  | firstItem stack =>
      by_cases closes : token = .closeBracket
      · subst closes
        cases stepped
        simp only [Stage.held, Value.width, List.length_nil]
        omega
      · have begun : begin_ (.list [] :: stack) token = some next := by
          cases token with
          | closeBracket => exact absurd rfl closes
          | _ => exact stepped
        have bound := begin_held begun
        simpa [Stage.held, Frame.held] using bound
  | firstKey stack =>
      cases token with
      | closeBrace =>
          cases stepped
          simp only [Stage.held, Value.width, List.length_nil]
          omega
      | text name =>
          cases stepped
          simp only [Stage.held, List.length_nil]
          omega
      | _ => cases stepped
  | key stack before =>
      cases token with
      | text name =>
          cases stepped
          exact Nat.le_succ _
      | _ => cases stepped
  | colon stack before name =>
      cases token with
      | colon =>
          cases stepped
          simp only [Stage.held, List.map_cons, List.sum_cons, Frame.held]
          omega
      | _ => cases stepped
  | after stack item =>
      cases stack with
      | nil => cases token <;> cases stepped
      | cons frame stack =>
          cases frame with
          | list before =>
              cases token with
              | comma =>
                  cases stepped
                  simp only [Stage.held, List.map_cons, List.sum_cons, Frame.held, List.length_cons]
                  omega
              | closeBracket =>
                  cases stepped
                  simp only [Stage.held, List.map_cons, List.sum_cons, Frame.held, Value.width,
                    List.length_reverse, List.length_cons]
                  omega
              | _ => cases stepped
          | member before name =>
              cases token with
              | comma =>
                  cases stepped
                  simp only [Stage.held, List.map_cons, List.sum_cons, Frame.held, List.length_cons]
                  omega
              | closeBrace =>
                  cases stepped
                  simp only [Stage.held, List.map_cons, List.sum_cons, Frame.held, Value.width,
                    List.length_reverse, List.length_cons]
                  omega
              | _ => cases stepped

theorem run_width {stage : Stage} {tokens : List Token} {value : Value}
    (reads : stage.run tokens = some value) : value.width + 1 ≤ stage.held + tokens.length := by
  induction tokens generalizing stage with
  | nil =>
      cases stage with
      | after stack document =>
          cases stack with
          | nil =>
              cases reads
              exact Nat.le_refl _
          | cons frame stack => cases reads
      | _ => cases reads
  | cons token rest ih =>
      obtain ⟨next, stepped, more⟩ := Option.bind_eq_some_iff.mp reads
      have one := step_held stepped
      have others := ih more
      rw [List.length_cons]
      omega

/-- A text has more characters than its value has items. -/
theorem read_width {text : String} {value : Value} (reads : read text = some value) :
    value.width < text.toList.length := by
  obtain ⟨tokens, scanned, run⟩ := Option.bind_eq_some_iff.mp reads
  have fewer := scan_length scanned
  have most := run_width run
  simp only [Mode.pending, Stage.held, List.map_nil, List.sum_nil] at fewer most
  omega

end JsonText
