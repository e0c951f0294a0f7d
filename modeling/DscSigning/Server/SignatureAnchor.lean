/-
The marker that a print format leaves in the PDF, and what the engine reads back.

The size is written by the general number format, with six significant digits,
and read by an expression that knows plain decimals only.
-/

import DscSigning.Library.DecimalFormat
import DscSigning.Server.SigningEngine

namespace DscSigning

open DecimalFormat

/-! ### Writing -/

/-- The nearest 64-bit float, the even one of two. -/
def binary64 (x : ℚ) : PyFloat :=
  if x = 0 then .finite 0
  else
    let unit : ℚ := 2 ^ max (Int.log 2 |x| - 52) (-1074)
    let rounded := halfEven (x / unit) * unit
    if 2 ^ 1024 ≤ |rounded| then .infinite (x < 0) else .finite rounded

/-- `f"{value:g}"` -/
def formatG : PyFloat → List Char
  | .finite value =>
      if value = 0 then ['0']
      else if value < 0 then '-' :: general 5 (-value)
      else general 5 value
  | .infinite negative => if negative then "-inf".toList else "inf".toList
  | .nan => "nan".toList

/-- Width and height as floats; both fall back where one is no number. -/
def reserved (width height : Option ℚ) : PyFloat × PyFloat :=
  match width, height with
  | some width, some height => (binary64 width, binary64 height)
  | _, _ => (.finite 200, .finite 80)

def anchorName : List Char :=
  ['D', 'S', 'C', '_', 'S', 'I', 'G', '_', 'A', 'N', 'C', 'H', 'O', 'R', ':']

def anchorPrefix : List Char := '@' :: '@' :: anchorName

def anchorMarker (size : PyFloat × PyFloat) : List Char :=
  anchorPrefix ++ (formatG size.1 ++ ':' :: (formatG size.2 ++ ['@', '@']))

/-- The HTML for a print format. -/
def dscSignatureAnchor (width height : Option ℚ) : String :=
  let size := reserved width height
  "<div class=\"dsc-signature-anchor\" " ++
    s!"style=\"width:{String.ofList (formatG size.1)}pt;height:{String.ofList (formatG size.2)}pt;" ++
    "position:relative;overflow:hidden;\">" ++
    "<span style=\"color:transparent;font-size:1pt;line-height:1pt;white-space:nowrap;\">" ++
    String.ofList (anchorMarker size) ++ "</span></div>"

/-! ### Reading -/

/-- `\d+(?:\.\d+)?`, and what follows it. -/
def takeNumber (text : List Char) : Option (List Char × List Char) :=
  let whole := text.takeWhile Char.isDigit
  let rest := text.dropWhile Char.isDigit
  if whole = [] then none
  else
    match rest with
    | '.' :: more =>
        let fraction := more.takeWhile Char.isDigit
        if fraction = [] then some (whole, rest)
        else some (whole ++ '.' :: fraction, more.dropWhile Char.isDigit)
    | _ => some (whole, rest)

/-- `_ANCHOR_RE` at one place. A shorter number would be followed by a digit or a point, never by
what has to come, so the longest one decides. -/
def matchAnchor (text : List Char) : Option (List Char × List Char) := do
  let rest ← anchorPrefix.isPrefixOf? text
  let (width, rest) ← takeNumber rest
  let rest ← [':'].isPrefixOf? rest
  let (height, rest) ← takeNumber rest
  let _ ← ['@', '@'].isPrefixOf? rest
  some (width, height)

/-- `_ANCHOR_RE.search` -/
def searchAnchor : List Char → Option (List Char × List Char)
  | [] => matchAnchor []
  | c :: rest => (matchAnchor (c :: rest)).or (searchAnchor rest)

/-- The size that `locate_signature_anchor` reads in a line. -/
def lineSize (text : List Char) : Option (PyFloat × PyFloat) :=
  (searchAnchor text).map fun groups => (binary64 (denoted groups.1), binary64 (denoted groups.2))

/-- The two groups denote the numbers, so the size of the box is the one reserved. -/
def MarkerReads (width height : ℚ) : Prop :=
  ∃ groups, searchAnchor (anchorMarker (reserved (some width) (some height))) = some groups ∧
    denoted groups.1 = width ∧ denoted groups.2 = height ∧
    lineSize (anchorMarker (reserved (some width) (some height))) =
      some (reserved (some width) (some height))

/-! ### Numbers in the marker -/

theorem takeNumber_pointed {whole fraction : List Char} {c : Char} (some_ : whole ≠ [])
    (digits : ∀ c ∈ whole, c.isDigit = true) (more : ∀ c ∈ fraction, c.isDigit = true)
    (ends : c.isDigit = false) (point : c ≠ '.') (rest : List Char) :
    takeNumber (pointed whole fraction ++ c :: rest) =
      some (pointed whole fraction, c :: rest) := by
  cases fraction with
  | nil =>
      have all : (whole ++ c :: rest).takeWhile Char.isDigit = whole := by
        rw [List.takeWhile_append_of_pos digits, List.takeWhile_cons_of_neg (by simp [ends]),
          List.append_nil]
      have after : (whole ++ c :: rest).dropWhile Char.isDigit = c :: rest := by
        rw [List.dropWhile_append_of_pos digits, List.dropWhile_cons_of_neg (by simp [ends])]
      simp only [takeNumber, pointed, all, after, if_neg some_]
      split
      · rename_i tail same
        injection same with head _
        exact absurd head point
      · rfl
  | cons first others =>
      have all : (whole ++ '.' :: first :: others ++ c :: rest).takeWhile Char.isDigit = whole := by
        rw [List.append_assoc, List.takeWhile_append_of_pos digits, List.cons_append,
          List.takeWhile_cons_of_neg (by decide), List.append_nil]
      have after : (whole ++ '.' :: first :: others ++ c :: rest).dropWhile Char.isDigit =
          '.' :: (first :: others ++ c :: rest) := by
        rw [List.append_assoc, List.dropWhile_append_of_pos digits, List.cons_append,
          List.dropWhile_cons_of_neg (by decide)]
      have part : (first :: others ++ c :: rest).takeWhile Char.isDigit = first :: others := by
        rw [List.takeWhile_append_of_pos more, List.takeWhile_cons_of_neg (by simp [ends]),
          List.append_nil]
      have last : (first :: others ++ c :: rest).dropWhile Char.isDigit = c :: rest := by
        rw [List.dropWhile_append_of_pos more, List.dropWhile_cons_of_neg (by simp [ends])]
      simp only [takeNumber, pointed, all, after, if_neg some_, part, last,
        if_neg (List.cons_ne_nil first others)]

/-- The text is read whole, whatever follows that cannot belong to it. -/
def ReadsWhole (text : List Char) : Prop :=
  ∀ c rest, c.isDigit = false → c ≠ '.' → takeNumber (text ++ c :: rest) = some (text, c :: rest)

/-- No number is read, or one that an exponent follows. -/
def Blocks (text : List Char) : Prop :=
  ∀ rest, takeNumber (text ++ rest) = none ∨
    ∃ group more, takeNumber (text ++ rest) = some (group, 'e' :: more)

theorem fixed_reads (digits decimals : ℕ) : ReadsWhole (fixed digits decimals) :=
  fun _ rest ends point =>
    takeNumber_pointed Nat.toDigits_ne_nil toDigits_digit stripped_numeral_digit ends point rest

theorem scientific_blocks (places digits : ℕ) (exponent : ℤ) :
    Blocks (scientific places digits exponent) := by
  intro rest
  rw [scientific, List.append_assoc, List.cons_append]
  exact Or.inr ⟨_, _, takeNumber_pointed Nat.toDigits_ne_nil toDigits_digit
    stripped_numeral_digit (by decide) (by decide) _⟩

theorem general_cases (places : ℕ) {x : ℚ} (positive : 0 < x) :
    (ReadsWhole (general places x) ∧ FewDigits places (denoted (general places x))) ∨
      Blocks (general places x) := by
  obtain ⟨least, most⟩ := significant_bounds places positive
  simp only [general]
  split
  · rename_i range
    left
    refine ⟨fixed_reads _ _, ?_⟩
    rw [denoted_normal range.2]
    exact fewDigits_normal ⟨least, most, range.1, range.2⟩
  · exact Or.inr (scientific_blocks _ _ _)

/-! ### The marker -/

theorem formatG_positive {x : ℚ} (positive : 0 < x) : formatG (.finite x) = general 5 x := by
  simp only [formatG, if_neg positive.ne', if_neg (not_lt_of_ge positive.le)]

/-- A float in the range is within half a unit of its last bit. -/
theorem binary64_near {x : ℚ} (least : 10 ^ (-4 : ℤ) ≤ x) (most : x < 10 ^ 6) :
    ∃ value, binary64 x = .finite value ∧ |value - x| ≤ x / 2 ^ 53 := by
  have positive : 0 < x := lt_of_lt_of_le (zpow_pos (by norm_num) _) least
  have low : (2 : ℚ) ^ Int.log 2 x ≤ x := by
    exact_mod_cast Int.zpow_log_le_self (b := 2) (by norm_num) positive
  have range : -14 ≤ Int.log 2 x := by
    refine (Int.zpow_le_iff_le_log (b := 2) (by norm_num) positive).mp ?_
    refine le_trans ?_ least
    norm_num
  have normal : max (Int.log 2 |x| - 52) (-1074) = Int.log 2 x - 52 := by
    rw [abs_of_pos positive]
    omega
  have unit : (0 : ℚ) < 2 ^ (Int.log 2 x - 52) := zpow_pos (by norm_num) _
  have half := abs_le.mp (abs_sub_halfEven (x / 2 ^ (Int.log 2 x - 52)))
  have error : |halfEven (x / 2 ^ (Int.log 2 x - 52)) * 2 ^ (Int.log 2 x - 52) - x| ≤ x / 2 ^ 53 := by
    have finest : (2 : ℚ) ^ (Int.log 2 x - 52) / 2 ≤ x / 2 ^ 53 := by
      rw [zpow_sub₀ (by norm_num)]
      have constant : (2 : ℚ) ^ (52 : ℤ) = 2 ^ 52 := by norm_num
      rw [constant]
      have scaled := div_le_div_of_nonneg_right low (show (0 : ℚ) ≤ 2 ^ 53 by norm_num)
      calc (2 : ℚ) ^ Int.log 2 x / 2 ^ 52 / 2 = 2 ^ Int.log 2 x / 2 ^ 53 := by
            rw [div_div]
            norm_num
        _ ≤ x / 2 ^ 53 := scaled
    have lower := mul_le_mul_of_nonneg_right half.1 unit.le
    have upper := mul_le_mul_of_nonneg_right half.2 unit.le
    rw [sub_mul, div_mul_cancel₀ x unit.ne'] at lower upper
    rw [abs_le]
    constructor
    · linarith
    · linarith
  have finite : ¬ 2 ^ 1024 ≤ |halfEven (x / 2 ^ (Int.log 2 x - 52)) * (2 : ℚ) ^ (Int.log 2 x - 52)| := by
    obtain ⟨lower, upper⟩ := abs_le.mp error
    have tiny : x / 2 ^ 53 ≤ x := div_le_self positive.le (by norm_num)
    have below : |halfEven (x / 2 ^ (Int.log 2 x - 52)) * (2 : ℚ) ^ (Int.log 2 x - 52)| < 2 ^ 21 := by
      rw [abs_lt]
      constructor
      · linarith
      · linarith
    have huge : (2 : ℚ) ^ 21 ≤ 2 ^ 1024 := pow_le_pow_right₀ (by norm_num) (by norm_num)
    exact not_le_of_gt (lt_of_lt_of_le below huge)
  refine ⟨_, ?_, error⟩
  simp only [binary64, if_neg positive.ne', normal, if_neg finite]

theorem format_few {x : ℚ} (few : FewDigits 5 x) : ∃ value, binary64 x = .finite value ∧
    0 < value ∧ ReadsWhole (general 5 value) ∧ denoted (general 5 value) = x := by
  obtain ⟨value, float, near⟩ := binary64_near few.least few.most
  have positive : 0 < x := lt_of_lt_of_le (zpow_pos (by norm_num) _) few.least
  obtain ⟨n, exponent, normal, same⟩ := normal_of_fewDigits few
  have unit : (0 : ℚ) < 10 ^ (exponent - (5 : ℕ)) := zpow_pos (by norm_num) _
  have closer : |value - n * 10 ^ (exponent - (5 : ℕ))| < 10 ^ (exponent - (5 : ℕ)) / 20 := by
    have most : (n : ℚ) < 10 ^ 6 := by exact_mod_cast normal.most
    have scaled := mul_lt_mul_of_pos_right most unit
    rw [← same] at scaled ⊢
    generalize (10 : ℚ) ^ (exponent - (5 : ℕ)) = last at unit scaled
    refine lt_of_le_of_lt near ?_
    rw [div_lt_iff₀ (by norm_num)]
    linarith
  have printed := denoted_general normal closer
  refine ⟨value, float, ?_, ?_, ?_⟩
  · obtain ⟨lower, _⟩ := abs_le.mp near
    have tiny : x / 2 ^ 53 < x := div_lt_self positive (by norm_num)
    linarith
  · rw [printed]
    exact fixed_reads _ _
  · rw [printed, denoted_normal normal.large, ← same]

/-- Whatever float a number becomes, its text is no number, zero, or one with few digits. -/
theorem format_cases {x : ℚ} (positive : 0 < x) :
    Blocks (formatG (binary64 x)) ∨ ReadsWhole (formatG (binary64 x)) ∧
      (denoted (formatG (binary64 x)) = 0 ∨ FewDigits 5 (denoted (formatG (binary64 x)))) := by
  have nonneg : binary64 x = .infinite false ∨ ∃ value, binary64 x = .finite value ∧ 0 ≤ value := by
    simp only [binary64, if_neg positive.ne', decide_eq_false (not_lt_of_ge positive.le)]
    split
    · exact Or.inl rfl
    · refine Or.inr ⟨_, rfl, mul_nonneg ?_ (zpow_nonneg (by norm_num) _)⟩
      exact Int.cast_nonneg (le_halfEven (by
        rw [Int.cast_zero]
        exact div_nonneg positive.le (zpow_nonneg (by norm_num) _)))
  rcases nonneg with infinite | ⟨value, finite, nonneg⟩
  · rw [infinite]
    exact Or.inl fun rest => Or.inl rfl
  · rw [finite]
    rcases nonneg.eq_or_lt with zero | above
    · rw [← zero]
      refine Or.inr ⟨fun c rest ends point => ?_, Or.inl (by decide +kernel)⟩
      exact @takeNumber_pointed ['0'] [] c (by decide) (List.forall_mem_singleton.mpr rfl) (by simp)
        ends point rest
    · rw [formatG_positive above]
      rcases general_cases 5 above with ⟨reads, few⟩ | blocks
      · exact Or.inr ⟨reads, Or.inr few⟩
      · exact Or.inl blocks

theorem general_at_free {places : ℕ} {x : ℚ} : ∀ c ∈ general places x, c ≠ '@' := by
  have digit : ∀ c : Char, c.isDigit = true → c ≠ '@' := by
    rintro c digit rfl
    revert digit
    decide
  have plain : ∀ whole fraction : List Char, (∀ c ∈ whole, c.isDigit = true) →
      (∀ c ∈ fraction, c.isDigit = true) → ∀ c ∈ pointed whole fraction, c ≠ '@' := by
    intro whole fraction digits more c member
    cases fraction with
    | nil => exact digit c (digits c member)
    | cons first rest =>
        rcases List.mem_append.mp member with inside | after
        · exact digit c (digits c inside)
        · rcases List.mem_cons.mp after with point | inside
          · rw [point]
            decide
          · exact digit c (more c inside)
  intro c member
  simp only [general] at member
  split at member
  · exact plain _ _ toDigits_digit stripped_numeral_digit c member
  · rcases List.mem_append.mp member with inside | after
    · exact plain _ _ toDigits_digit stripped_numeral_digit c inside
    · simp only [List.mem_cons] at after
      rcases after with mark | sign | inside
      · rw [mark]
        decide
      · rw [sign]
        split <;> decide
      · exact digit c (Calendar.numeral_digit inside)

theorem ne_of_at_free {text : List Char} (free : '@' ∉ text) : ∀ c ∈ text, c ≠ '@' := by
  intro c member same
  exact free (same ▸ member)

theorem formatG_at_free (value : PyFloat) : ∀ c ∈ formatG value, c ≠ '@' := by
  cases value with
  | finite value =>
      simp only [formatG]
      split
      · exact ne_of_at_free (by decide)
      · split
        · rw [List.forall_mem_cons]
          exact ⟨by decide, general_at_free⟩
        · exact general_at_free
  | infinite negative => cases negative <;> exact ne_of_at_free (by decide)
  | nan => exact ne_of_at_free (by decide)

/-- Only the marker itself begins as one. -/
theorem search_at_free {text : List Char} (free : ∀ c ∈ text, c ≠ '@') :
    searchAnchor (text ++ ['@', '@']) = none := by
  induction text with
  | nil => rfl
  | cons c rest ih =>
      have other : matchAnchor (c :: (rest ++ ['@', '@'])) = none := by
        have head : ('@' == c) = false := by
          rw [beq_eq_false_iff_ne]
          exact (free c List.mem_cons_self).symm
        have start : anchorPrefix.isPrefixOf? (c :: (rest ++ ['@', '@'])) = none := by
          rw [anchorPrefix, List.isPrefixOf?, head]
          rfl
        rw [matchAnchor, start]
        rfl
      rw [List.cons_append, searchAnchor, other, Option.none_or]
      exact ih fun later member => free later (List.mem_cons_of_mem c member)

theorem search_marker (size : PyFloat × PyFloat) :
    searchAnchor (anchorMarker size) = matchAnchor (anchorMarker size) := by
  have shape : anchorMarker size = '@' :: '@' :: (anchorName ++
      (formatG size.1 ++ ':' :: formatG size.2) ++ ['@', '@']) := by
    simp [anchorMarker, anchorPrefix]
  have rest : searchAnchor (anchorName ++
      (formatG size.1 ++ ':' :: formatG size.2) ++ ['@', '@']) = none := by
    apply search_at_free
    intro c member
    rcases List.mem_append.mp member with name | numbers
    · exact ne_of_at_free (by decide) c name
    · rcases List.mem_append.mp numbers with width | after
      · exact formatG_at_free size.1 c width
      · rcases List.mem_cons.mp after with colon | height
        · rw [colon]
          decide
        · exact formatG_at_free size.2 c height
  have second : matchAnchor ('@' :: (anchorName ++
      (formatG size.1 ++ ':' :: formatG size.2) ++ ['@', '@'])) = none := by
    have start : anchorPrefix.isPrefixOf? ('@' :: (anchorName ++
        (formatG size.1 ++ ':' :: formatG size.2) ++ ['@', '@'])) = none := by
      simp [anchorPrefix, anchorName, List.isPrefixOf?]
    rw [matchAnchor, start]
    rfl
  rw [shape, searchAnchor, searchAnchor, rest, second]
  simp

theorem marker_begins (rest : List Char) :
    anchorPrefix.isPrefixOf? (anchorPrefix ++ rest) = some rest := by
  rfl

theorem match_begun (rest : List Char) : matchAnchor (anchorPrefix ++ rest) =
    (takeNumber rest).bind fun width => ([':'].isPrefixOf? width.2).bind fun rest =>
      (takeNumber rest).bind fun height => (['@', '@'].isPrefixOf? height.2).bind fun _ =>
        some (width.1, height.1) := by
  rw [matchAnchor, marker_begins]
  rfl

theorem match_reads {size : PyFloat × PyFloat} (width : ReadsWhole (formatG size.1))
    (height : ReadsWhole (formatG size.2)) :
    matchAnchor (anchorMarker size) = some (formatG size.1, formatG size.2) := by
  rw [anchorMarker, match_begun, width ':' _ (by decide) (by decide)]
  simp only [Option.bind_some, List.isPrefixOf?, beq_self_eq_true, if_true]
  rw [height '@' _ (by decide) (by decide)]
  rfl

theorem match_blocks_width {size : PyFloat × PyFloat} (blocks : Blocks (formatG size.1)) :
    matchAnchor (anchorMarker size) = none := by
  rw [anchorMarker, match_begun]
  rcases blocks (':' :: (formatG size.2 ++ ['@', '@'])) with nothing | ⟨group, more, found⟩
  · rw [nothing]
    rfl
  · rw [found]
    rfl

theorem match_blocks_height {size : PyFloat × PyFloat} (width : ReadsWhole (formatG size.1))
    (blocks : Blocks (formatG size.2)) : matchAnchor (anchorMarker size) = none := by
  rw [anchorMarker, match_begun, width ':' _ (by decide) (by decide)]
  simp only [Option.bind_some, List.isPrefixOf?, beq_self_eq_true, if_true]
  rcases blocks ['@', '@'] with nothing | ⟨group, more, found⟩
  · rw [nothing]
    rfl
  · rw [found]
    rfl

/-- The marker is read back as what was asked for exactly where both numbers have at most six
digits and are printed without an exponent. -/
theorem marker_reads_iff {width height : ℚ} (wide : 0 < width) (high : 0 < height) :
    MarkerReads width height ↔ FewDigits 5 width ∧ FewDigits 5 height := by
  constructor
  · rintro ⟨groups, found, widthSame, heightSame, _⟩
    rw [reserved, search_marker] at found
    rcases format_cases wide with blocks | ⟨readsWidth, widthCases⟩
    · rw [match_blocks_width blocks] at found
      cases found
    · rcases format_cases high with blocks | ⟨readsHeight, heightCases⟩
      · rw [match_blocks_height readsWidth blocks] at found
        cases found
      · rw [match_reads readsWidth readsHeight] at found
        cases found
        rw [widthSame] at widthCases
        rw [heightSame] at heightCases
        exact ⟨widthCases.resolve_left wide.ne', heightCases.resolve_left high.ne'⟩
  · rintro ⟨fewWidth, fewHeight⟩
    obtain ⟨widthValue, widthFloat, widthPositive, readsWidth, widthSame⟩ := format_few fewWidth
    obtain ⟨heightValue, heightFloat, heightPositive, readsHeight, heightSame⟩ :=
      format_few fewHeight
    rw [← formatG_positive widthPositive, ← widthFloat] at readsWidth widthSame
    rw [← formatG_positive heightPositive, ← heightFloat] at readsHeight heightSame
    have found : searchAnchor (anchorMarker (reserved (some width) (some height))) =
        some (formatG (binary64 width), formatG (binary64 height)) := by
      rw [reserved, search_marker, match_reads readsWidth readsHeight]
    refine ⟨_, found, widthSame, heightSame, ?_⟩
    rw [lineSize, found, Option.map_some, widthSame, heightSame]
    rfl

theorem marker_reads_sample :
    MarkerReads 220 90 ↔ FewDigits 5 220 ∧ FewDigits 5 90 :=
  marker_reads_iff (by norm_num) (by norm_num)

/-- Seven digits: the last one is lost. -/
theorem marker_rounds : ¬ MarkerReads (1234567 / 10000) 90 := by
  rintro ⟨groups, found, widthSame, _⟩
  have read : searchAnchor (anchorMarker (reserved (some (1234567 / 10000)) (some 90))) =
      some (['1', '2', '3', '.', '4', '5', '7'], ['9', '0']) := by
    decide +kernel
  rw [read] at found
  cases found
  revert widthSame
  decide +kernel

end DscSigning
