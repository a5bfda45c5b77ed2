/-
This file builds operations of Python's strings on texts of code points: what
counts as a space and as a decimal digit, stripping, the last segment of a path,
the number a text spells, and the decimal text of a number, which spells it. The
digits are those of Unicode 14; every one of them belongs to a run of ten.
-/

import Gyanam.Lib.Fallible
import Gyanam.Lib.Json
import Mathlib.Data.List.DropRight
import Mathlib.Data.List.TakeWhile

namespace Strings

open Json (CodePoint Text)

/-! ### Characters -/

/-- The code points of the spaces that are no range of their own. -/
def isSpace (point : CodePoint) : Bool :=
  (0x9 ≤ point.val && point.val ≤ 0xD) || (0x1C ≤ point.val && point.val ≤ 0x20) ||
    (0x2000 ≤ point.val && point.val ≤ 0x200A) ||
    point.val ∈ [0x85, 0xA0, 0x1680, 0x2028, 0x2029, 0x202F, 0x205F, 0x3000]

/-- The zeros of the runs of decimal digits. -/
def decimalZeros : List Nat := [
  0x30, 0x660, 0x6F0, 0x7C0, 0x966, 0x9E6, 0xA66, 0xAE6, 0xB66, 0xBE6, 0xC66, 0xCE6, 0xD66, 0xDE6,
  0xE50, 0xED0, 0xF20, 0x1040, 0x1090, 0x17E0, 0x1810, 0x1946, 0x19D0, 0x1A80, 0x1A90, 0x1B50,
  0x1BB0, 0x1C40, 0x1C50, 0xA620, 0xA8D0, 0xA900, 0xA9D0, 0xA9F0, 0xAA50, 0xABF0, 0xFF10, 0x104A0,
  0x10D30, 0x11066, 0x110F0, 0x11136, 0x111D0, 0x112F0, 0x11450, 0x114D0, 0x11650, 0x116C0,
  0x11730, 0x118E0, 0x11950, 0x11C50, 0x11D50, 0x11DA0, 0x16A60, 0x16AC0, 0x16B50, 0x1D7CE,
  0x1D7D8, 0x1D7E2, 0x1D7EC, 0x1D7F6, 0x1E140, 0x1E2F0, 0x1E950, 0x1FBF0]

/-- The value of a decimal digit of any script. -/
def decimalDigit (point : CodePoint) : Option Nat :=
  (decimalZeros.find? fun start => start ≤ point.val && point.val < start + 10).map (point.val - ·)

/-- The runs of digits that are not decimal, such as superscripts and digits in circles. -/
def digitRanges : List (Nat × Nat) := [
  (0xB2, 0xB3), (0xB9, 0xB9), (0x1369, 0x1371), (0x19DA, 0x19DA), (0x2070, 0x2070),
  (0x2074, 0x2079), (0x2080, 0x2089), (0x2460, 0x2468), (0x2474, 0x247C), (0x2488, 0x2490),
  (0x24EA, 0x24EA), (0x24F5, 0x24FD), (0x24FF, 0x24FF), (0x2776, 0x277E), (0x2780, 0x2788),
  (0x278A, 0x2792), (0x10A40, 0x10A43), (0x10E60, 0x10E68), (0x11052, 0x1105A), (0x1F100, 0x1F10A)]

/-- Is a code point a digit, decimal or not? -/
def isDigit (point : CodePoint) : Bool :=
  (decimalDigit point).isSome ||
    digitRanges.any fun range => range.1 ≤ point.val && point.val ≤ range.2

/-! ### Stripping and splitting -/

/-- A text without the characters of a kind at its end. -/
def stripEnd (drops : CodePoint → Bool) (chars : Text) : Text :=
  (chars.reverse.dropWhile drops).reverse

/-- A text without the spaces at its ends. -/
def strip (chars : Text) : Text := stripEnd isSpace (chars.dropWhile isSpace)

/-- The spaces that may stand around a number: all but the four separators of information. -/
def isNumberSpace (point : CodePoint) : Bool :=
  isSpace point && !(0x1C ≤ point.val && point.val ≤ 0x1F)

/-- A text without the spaces around a number. -/
def stripNumber (chars : Text) : Text :=
  stripEnd isNumberSpace (chars.dropWhile isNumberSpace)

/-- The last segment of a path; separators at its end do not count. -/
def lastSegment (separator : CodePoint) (chars : Text) : Text :=
  ((chars.reverse.dropWhile (· = separator)).takeWhile (· ≠ separator)).reverse

/-- Lower case, as far as it gives ASCII: the capitals, the Kelvin sign, and the capital I with a
dot, which becomes two characters. Whatever else changes, no ASCII character comes of it. -/
def lower (chars : Text) : Text :=
  chars.flatMap fun point =>
    if 'A'.toNat ≤ point.val ∧ point.val ≤ 'Z'.toNat then [Json.point (point.val + 32)]
    else if point.val = 0x212A then [Json.point 'k'.toNat]
    else if point.val = 0x130 then [Json.point 'i'.toNat, Json.point 0x307]
    else [point]

/-- Whether a word occurs in a text. -/
def contains (chars word : Text) : Bool := chars.tails.any fun rest => word.isPrefixOf rest

/-- The parts of a text between separators. -/
def split (separator : CodePoint) : Text → List Text
  | [] => [[]]
  | point :: rest =>
    if point = separator then [] :: split separator rest
    else match split separator rest with
      | [] => [[point]]
      | part :: parts => (point :: part) :: parts

/-! ### Paths -/

/-- The name of a path: its last part that is neither empty nor a dot. -/
def pathName (path : Text) : Text :=
  ((split (Json.point '/'.toNat) path).filter fun part =>
    decide (part ≠ [] ∧ part ≠ Json.text ".")).getLast?.getD []

/-- What follows the last slash of a path. -/
def basename (path : Text) : Text :=
  (path.reverse.takeWhile (· ≠ Json.point '/'.toNat)).reverse

/-- Where the suffix of a name starts: at its last dot, if this is neither at the start nor at the
end. -/
def suffixStart (name : Text) : Nat :=
  let tail := (name.reverse.takeWhile (· ≠ Json.point '.'.toNat)).length
  let start := name.length - tail - 1
  if tail = name.length ∨ start = 0 ∨ tail = 0 then name.length else start

/-- A name without its suffix. -/
def stem (name : Text) : Text := name.take (suffixStart name)

/-- The suffix of a name. -/
def suffix (name : Text) : Text := name.drop (suffixStart name)

/-! ### Patterns -/

/-- A part of a file name pattern: any characters, or one of some. -/
inductive Glob where
  | star
  | one (allows : CodePoint → Bool)

/-- The characters of a set: single ones and ranges. -/
def globSet : Text → CodePoint → Bool
  | first :: dash :: last :: rest, point =>
    if dash = Json.point '-'.toNat then
      (first ≤ point && point ≤ last) || globSet rest point
    else first = point || globSet (dash :: last :: rest) point
  | first :: rest, point => first = point || globSet rest point
  | [], _ => false

/-- The set between brackets; an exclamation mark negates it. -/
def globClass (inside : Text) (point : CodePoint) : Bool :=
  match inside with
  | [] => false
  | first :: rest =>
    if first = Json.point '!'.toNat then !globSet rest point else globSet inside point

/-- The inside of the set that an open bracket starts, if it is closed. Its first character does not
close it. -/
def openSet (chars : Text) : Option Text :=
  let negation := if chars.head? = some (Json.point '!'.toNat) then 1 else 0
  let first := if (chars.drop negation).head? = some (Json.point ']'.toNat) then 1 else 0
  let inside := (chars.drop (negation + first)).takeWhile (· ≠ Json.point ']'.toNat)
  if negation + first + inside.length < chars.length then
    some (chars.take (negation + first) ++ inside)
  else none

/-- The parts of a pattern, after some characters that belong to a set. -/
def globParts : Nat → Text → List Glob
  | _, [] => []
  | skipped + 1, _ :: rest => globParts skipped rest
  | 0, point :: rest =>
    if point = Json.point '*'.toNat then .star :: globParts 0 rest
    else if point = Json.point '?'.toNat then .one (fun _ => true) :: globParts 0 rest
    else if point = Json.point '['.toNat then
      match openSet rest with
      | some inside => .one (globClass inside) :: globParts (inside.length + 1) rest
      | none => .one (· = point) :: globParts 0 rest
    else .one (· = point) :: globParts 0 rest

/-- Whether a text is what the parts of a pattern allow. -/
def matchParts : List Glob → Text → Bool
  | [], chars => chars.isEmpty
  | .star :: parts, chars => chars.tails.any (matchParts parts)
  | .one _ :: _, [] => false
  | .one allows :: parts, point :: rest => allows point && matchParts parts rest

/-- Whether a name matches a pattern, as file names do. -/
def fnmatch (name pattern : Text) : Bool := matchParts (globParts 0 pattern) name

/-! ### Numbers -/

/-- The ASCII character that stands for a code point in a number. -/
def numberChar (point : CodePoint) : Option Char :=
  match decimalDigit point with
  | some digit => some (Char.ofNat ('0'.toNat + digit))
  | none => if point.val < 0x80 then some (Char.ofNat point.val) else none

/-- Drop the underscores; each must stand between two digits. -/
def dropUnderscores : Option Char → List Char → Option (List Char)
  | _, [] => some []
  | before, '_' :: rest =>
    if before.any Json.isDigit && rest.head?.any Json.isDigit then dropUnderscores (some '_') rest
    else none
  | _, char :: rest => (dropUnderscores (some char) rest).map fun kept => char :: kept

/-- The double that a decimal literal without a sign spells. -/
def parseDecimal (negative : Bool) (chars : List Char) : Option Double :=
  let (whole, afterWhole) := Json.spanDigits chars
  let (places, afterPlaces) := match afterWhole with
    | '.' :: rest => Json.spanDigits rest
    | rest => ([], rest)
  let (exponent, rest) := Json.scanExponent afterPlaces
  if whole ++ places = [] ∨ rest ≠ [] then none
  else some (Double.ofDecimal negative (Json.digitsValue (whole ++ places))
    (exponent.getD 0 - places.length))

/-- The double that a text spells, in decimal or by name. -/
def toFloat (chars : Text) : Option Double := do
  let chars ← dropUnderscores none (← (stripNumber chars).mapM numberChar)
  let (negative, unsigned) := match chars with
    | '-' :: rest => (true, rest)
    | '+' :: rest => (false, rest)
    | rest => (false, rest)
  let lower := unsigned.map Char.toLower
  if lower = "inf".toList ∨ lower = "infinity".toList then return .infinite negative
  else if lower = "nan".toList then return .nan
  else parseDecimal negative unsigned

/-- The decimal text of an integer. -/
def decimal (number : Int) : Text := Json.text (toString number)

/-- A number with one decimal place. A tie goes to the even digit. -/
def fixedTenths (value : Rat) : Text :=
  let numerator := value.num.natAbs * 10
  let low := numerator / value.den
  let rest := numerator % value.den
  let tenths :=
    if value.den < 2 * rest ∨ (value.den = 2 * rest ∧ low % 2 = 1) then low + 1 else low
  Json.text (if value < 0 then "-" else "") ++ decimal ((tenths / 10 : Nat) : Int) ++
    Json.text "." ++ decimal ((tenths % 10 : Nat) : Int)

/-- A code point that stands in a decimal number: a digit, a dot or a dash. -/
def isDecimalMark (point : CodePoint) : Bool := 0x2D ≤ point.val && point.val ≤ 0x39

/-- The sign of a number, and what follows it. -/
def splitSign : List Char → Bool × List Char
  | '-' :: rest => (true, rest)
  | '+' :: rest => (false, rest)
  | rest => (false, rest)

/-- The integer that a text spells. A literal with too many digits is refused. -/
def toInt (chars : Text) : Option Int := do
  let chars ← dropUnderscores none (← (stripNumber chars).mapM numberChar)
  let (negative, digits) := splitSign chars
  if digits = [] ∨ digits.all Json.isDigit = false ∨ Json.maxDigits < digits.length then none
  else some (if negative then -(Json.digitsValue digits : Int) else Json.digitsValue digits)

/-! ### Parts of a text -/

/-- A part between separators has no separator in it. -/
theorem notMem_of_mem_split {separator : CodePoint} {chars part : Text}
    (member : part ∈ split separator chars) : separator ∉ part := by
  induction chars generalizing part with
  | nil =>
    obtain rfl := List.mem_singleton.mp member
    exact List.not_mem_nil
  | cons point rest inductionHypothesis =>
    rw [split] at member
    by_cases mark : point = separator
    · rw [if_pos mark] at member
      rcases List.mem_cons.mp member with rfl | later
      · exact List.not_mem_nil
      · exact inductionHypothesis later
    · rw [if_neg mark] at member
      cases parts : split separator rest with
      | nil =>
        rw [parts] at member
        obtain rfl := List.mem_singleton.mp member
        exact fun inside => mark (List.mem_singleton.mp inside).symm
      | cons first others =>
        rw [parts] at member
        rcases List.mem_cons.mp member with rfl | later
        · intro inside
          rcases List.mem_cons.mp inside with same | further
          · exact mark same.symm
          · exact inductionHypothesis (parts ▸ List.mem_cons_self) further
        · exact inductionHypothesis (parts ▸ List.mem_cons_of_mem first later)

/-! ### Characters of literals -/

theorem val_point (char : Char) : (Json.point char.toNat).val = char.toNat := by
  refine Nat.mod_eq_of_lt ?_
  rcases char.valid with low | high
  · exact lt_trans low (by decide)
  · exact high.2

theorem point_toNat_injective : Function.Injective fun char : Char => Json.point char.toNat := by
  intro first second same
  have codes := congrArg Fin.val same
  simp only [val_point] at codes
  exact Char.ext (UInt32.toNat_inj.mp codes)

/-! ### Reading decimal texts -/

theorem toList_decimal (number : Int) :
    (toString number).toList =
      if 0 ≤ number then Nat.toDigits 10 number.toNat
      else '-' :: Nat.toDigits 10 (-number).toNat := by
  rw [show toString number = number.repr from rfl, Int.repr_eq_if]
  split
  · exact Nat.toList_repr
  · rw [String.toList_append, Nat.toList_repr]
    rfl

theorem dropWhile_eq_self {drops : CodePoint → Bool} {chars : Text}
    (plain : ∀ point ∈ chars, drops point = false) : chars.dropWhile drops = chars := by
  cases chars with
  | nil => rfl
  | cons first rest =>
    rw [List.dropWhile_cons_of_neg (by simp [plain first List.mem_cons_self])]

theorem stripEnd_eq_self {drops : CodePoint → Bool} {chars : Text}
    (plain : ∀ point ∈ chars, drops point = false) : stripEnd drops chars = chars := by
  rw [stripEnd, dropWhile_eq_self fun point member => plain point (List.mem_reverse.mp member),
    List.reverse_reverse]

theorem mem_of_mem_stripEnd {drops : CodePoint → Bool} {chars : Text} {point : CodePoint}
    (member : point ∈ stripEnd drops chars) : point ∈ chars :=
  List.mem_reverse.mp ((List.dropWhile_sublist _).mem (List.mem_reverse.mp member))

theorem strip_eq_self {chars : Text} (plain : ∀ point ∈ chars, isSpace point = false) :
    strip chars = chars := by
  rw [strip, dropWhile_eq_self plain, stripEnd_eq_self plain]

theorem stripNumber_eq_self {chars : Text} (plain : ∀ point ∈ chars, isSpace point = false) :
    stripNumber chars = chars := by
  have none (point : CodePoint) (member : point ∈ chars) : isNumberSpace point = false := by
    rw [isNumberSpace, plain point member, Bool.false_and]
  rw [stripNumber, dropWhile_eq_self none, stripEnd_eq_self none]

/-- Exactly the blank texts have nothing left when they are stripped. -/
theorem strip_eq_nil_iff {chars : Text} :
    strip chars = [] ↔ ∀ point ∈ chars, isSpace point = true := by
  rw [strip, stripEnd, List.reverse_eq_nil_iff, List.dropWhile_eq_nil_iff]
  simp only [List.mem_reverse]
  constructor
  · intro trailing point member
    rw [← List.takeWhile_append_dropWhile (p := isSpace) (l := chars)] at member
    rcases List.mem_append.mp member with leading | rest
    · exact List.mem_takeWhile_imp leading
    · exact trailing point rest
  · exact fun all point member => all point ((List.dropWhile_sublist _).mem member)

/-- Stripping a stripped text leaves it alone. -/
theorem strip_strip (chars : Text) : strip (strip chars) = strip chars := by
  have front : (strip chars).dropWhile isSpace = strip chars := by
    obtain ⟨rest, whole⟩ : strip chars <+: chars.dropWhile isSpace := List.rdropWhile_prefix _ _
    cases stripped : strip chars with
    | nil => rfl
    | cons first others =>
      have head := List.head?_dropWhile_not isSpace chars
      rw [← whole, stripped] at head
      exact List.dropWhile_cons_of_neg (Bool.eq_false_iff.mp head)
  calc strip (strip chars) = stripEnd isSpace (strip chars) := by rw [strip, front]
    _ = strip chars := List.rdropWhile_idempotent _ _

/-- What is no space before a text with nothing to strip leaves nothing to strip. -/
theorem strip_cons {point : CodePoint} {chars : Text} (mark : isSpace point = false)
    (trimmed : strip chars = chars) (filled : chars ≠ []) :
    strip (point :: chars) = point :: chars := by
  have front : chars.dropWhile isSpace = chars := by
    refine (List.dropWhile_suffix isSpace).eq_of_length (le_antisymm ?_ ?_)
    · exact (List.dropWhile_suffix isSpace).length_le
    · have shorter := (List.dropWhile_suffix (l := (chars.dropWhile isSpace).reverse)
        isSpace).length_le
      have whole := congrArg List.length trimmed
      simp only [strip, stripEnd, List.length_reverse] at shorter whole
      omega
  have back : chars.reverse.dropWhile isSpace = chars.reverse := by
    rw [strip, front, stripEnd] at trimmed
    rw [← List.reverse_reverse (chars.reverse.dropWhile isSpace), trimmed]
  unfold strip stripEnd
  rw [List.dropWhile_cons_of_neg (by simp [mark]), List.reverse_cons, List.dropWhile_append, back,
    if_neg (by simpa using filled), List.reverse_append, List.reverse_reverse]
  rfl

theorem digitChar_of_mem_toDigits {char : Char} {number : Nat}
    (member : char ∈ Nat.toDigits 10 number) :
    ∃ digit, digit < 10 ∧ char = Nat.digitChar digit := by
  induction number using Nat.strong_induction_on with
  | _ number inductionHypothesis =>
    rw [Nat.toDigits_eq_if (by decide)] at member
    split at member
    · next small => exact ⟨number, small, List.mem_singleton.mp member⟩
    · next large =>
      rcases List.mem_append.mp member with earlier | last
      · exact inductionHypothesis (number / 10) (Nat.div_lt_self (by omega) (by decide)) earlier
      · exact ⟨number % 10, Nat.mod_lt _ (by decide), List.mem_singleton.mp last⟩

/-- The characters of a decimal text: digits, and a dash before them. -/
theorem numberChar_of_mem_decimal {char : Char} {number : Int}
    (member : char ∈ (toString number).toList) :
    numberChar (Json.point char.toNat) = some char ∧ isSpace (Json.point char.toNat) = false ∧
      char ≠ '_' := by
  have digit : ∀ digit, digit < 10 →
      numberChar (Json.point (Nat.digitChar digit).toNat) = some (Nat.digitChar digit) ∧
        isSpace (Json.point (Nat.digitChar digit).toNat) = false ∧ Nat.digitChar digit ≠ '_' := by
    decide
  have inDigits {magnitude : Nat} (inside : char ∈ Nat.toDigits 10 magnitude) :
      numberChar (Json.point char.toNat) = some char ∧
        isSpace (Json.point char.toNat) = false ∧ char ≠ '_' := by
    obtain ⟨value, small, rfl⟩ := digitChar_of_mem_toDigits inside
    exact digit value small
  rw [toList_decimal] at member
  split at member
  · exact inDigits member
  · rcases List.mem_cons.mp member with rfl | inside
    · decide
    · exact inDigits inside

theorem isDecimalMark_of_mem_decimal {point : CodePoint} {number : Int}
    (member : point ∈ decimal number) : isDecimalMark point = true := by
  obtain ⟨char, inside, rfl⟩ := List.mem_map.mp member
  have inDigits {magnitude : Nat} (listed : char ∈ Nat.toDigits 10 magnitude) :
      isDecimalMark (Json.point char.toNat) = true := by
    obtain ⟨digit, small, rfl⟩ := digitChar_of_mem_toDigits listed
    have digits : ∀ digit, digit < 10 →
        isDecimalMark (Json.point (Nat.digitChar digit).toNat) = true := by decide
    exact digits digit small
  rw [toList_decimal] at inside
  split at inside
  · exact inDigits inside
  · rcases List.mem_cons.mp inside with rfl | later
    · decide
    · exact inDigits later

theorem isDecimalMark_of_mem_fixedTenths {point : CodePoint} {value : Rat}
    (member : point ∈ fixedTenths value) : isDecimalMark point = true := by
  rw [fixedTenths, List.mem_append, List.mem_append, List.mem_append] at member
  rcases member with ((sign | whole) | dot) | tenth
  · split at sign
    · rw [List.mem_singleton.mp sign]
      decide
    · cases sign
  · exact isDecimalMark_of_mem_decimal whole
  · rw [List.mem_singleton.mp dot]
    decide
  · exact isDecimalMark_of_mem_decimal tenth

theorem dropUnderscores_eq_self {chars : List Char} (before : Option Char)
    (plain : ∀ char ∈ chars, char ≠ '_') : dropUnderscores before chars = some chars := by
  induction chars generalizing before with
  | nil => rfl
  | cons char rest inductionHypothesis =>
    have ordinary := plain char List.mem_cons_self
    have others := inductionHypothesis (some char) fun other member =>
      plain other (List.mem_cons_of_mem _ member)
    rw [dropUnderscores.eq_3 before char rest ordinary, others]
    rfl

theorem mapM_numberChar {chars : List Char}
    (each : ∀ char ∈ chars, numberChar (Json.point char.toNat) = some char) :
    (chars.map fun char => Json.point char.toNat).mapM numberChar = some chars := by
  induction chars with
  | nil => rfl
  | cons char rest inductionHypothesis =>
    obtain ⟨first, others⟩ := List.forall_mem_cons.mp each
    rw [List.map_cons, List.mapM_cons, first, inductionHypothesis others]
    rfl

/-- The characters of the decimal text of a natural number, and what they spell. -/
theorem digits_toDigits (number : Nat) :
    (Nat.toDigits 10 number).all Json.isDigit = true ∧
      Json.digitsValue (Nat.toDigits 10 number) = number := by
  have digit : ∀ digit, digit < 10 → Json.isDigit (Nat.digitChar digit) = true := by
    decide
  constructor
  · rw [List.all_eq_true]
    intro char member
    obtain ⟨value, small, rfl⟩ := digitChar_of_mem_toDigits member
    exact digit value small
  · rw [Json.digitsValue, ← Nat.ofDigitChars_eq_foldl, Nat.ofDigitChars_ten_toDigits]

theorem splitSign_toDigits (number : Nat) :
    splitSign (Nat.toDigits 10 number) = (false, Nat.toDigits 10 number) := by
  have unsigned : ∀ digit, digit < 10 →
      Nat.digitChar digit ≠ '-' ∧ Nat.digitChar digit ≠ '+' := by
    decide
  cases digits : Nat.toDigits 10 number with
  | nil => rfl
  | cons first rest =>
    obtain ⟨digit, small, rfl⟩ := digitChar_of_mem_toDigits (digits ▸ List.mem_cons_self)
    obtain ⟨minus, plus⟩ := unsigned digit small
    unfold splitSign
    split
    · next same => exact absurd (List.cons.inj same).1 minus
    · next same => exact absurd (List.cons.inj same).1 plus
    · rfl

/-- A decimal text has no spaces. -/
theorem isSpace_of_mem_decimal {number : Int} {point : CodePoint}
    (member : point ∈ decimal number) : isSpace point = false := by
  obtain ⟨char, inside, rfl⟩ := List.mem_map.mp member
  exact (numberChar_of_mem_decimal inside).2.1

theorem strip_decimal (number : Int) : strip (decimal number) = decimal number :=
  strip_eq_self fun _ member => isSpace_of_mem_decimal member

theorem length_decimal {number : Int} {places : Nat} (positive : 0 < places)
    (bounded : number.natAbs < 10 ^ places) :
    0 < (decimal number).length ∧ (decimal number).length ≤ places + 1 := by
  have some_digit : 0 < (Nat.toDigits 10 number.natAbs).length := Nat.length_toDigits_pos
  have short := (Nat.length_toDigits_le_iff (by decide) positive).mpr bounded
  have size : (decimal number).length = (toString number).toList.length := List.length_map ..
  rw [size, toList_decimal]
  split
  · next nonnegative =>
    rw [show number.toNat = number.natAbs by omega]
    omega
  · next negative =>
    rw [show (-number).toNat = number.natAbs by omega, List.length_cons]
    omega

/-- The number of its decimal text is an integer itself. -/
theorem toInt_decimal {number : Int} (bounded : number.natAbs < 10 ^ Json.maxDigits) :
    toInt (decimal number) = some number := by
  have chars : ∀ char ∈ (toString number).toList, _ := fun _ => numberChar_of_mem_decimal
  have read : (decimal number).mapM numberChar = some (toString number).toList :=
    mapM_numberChar fun char inside => (chars char inside).1
  have plain := dropUnderscores_eq_self none fun char inside => (chars char inside).2.2
  have sign : splitSign (toString number).toList =
      (decide (number < 0), Nat.toDigits 10 number.natAbs) := by
    rw [toList_decimal]
    split
    · next nonnegative =>
      have same : number.toNat = number.natAbs := by omega
      rw [splitSign_toDigits, decide_eq_false (Int.not_lt.mpr nonnegative), same]
    · next negative =>
      have same : (-number).toNat = number.natAbs := by omega
      rw [decide_eq_true (Int.not_le.mp negative), same]
      rfl
  obtain ⟨all, value⟩ := digits_toDigits number.natAbs
  have short := (Nat.length_toDigits_le_iff (by decide) (by decide)).mpr bounded
  have filled : Nat.toDigits 10 number.natAbs ≠ [] :=
    List.ne_nil_of_length_pos Nat.length_toDigits_pos
  unfold toInt
  rw [stripNumber_eq_self fun _ member => isSpace_of_mem_decimal member, read]
  simp only [Option.bind_eq_bind, Option.bind_some, plain, sign]
  rw [if_neg (by simp [filled, all, Nat.not_lt.mpr short]), value]
  refine congrArg some ?_
  by_cases negative : number < 0
  · rw [if_pos (decide_eq_true negative)]
    omega
  · rw [if_neg (by simpa using negative)]
    omega

/-! ### Digits of any script -/

theorem decimalDigit_lt {point : CodePoint} {digit : Nat}
    (decimal : decimalDigit point = some digit) : digit < 10 := by
  obtain ⟨start, found, rfl⟩ := Option.map_eq_some_iff.mp decimal
  have within := List.find?_some found
  simp only [Bool.and_eq_true, decide_eq_true_eq] at within
  omega

/-- The character that a decimal digit stands for. -/
theorem numberChar_of_decimalDigit {point : CodePoint} {digit : Nat}
    (decimal : decimalDigit point = some digit) :
    numberChar point = some (Char.ofNat ('0'.toNat + digit)) ∧
      Json.isDigit (Char.ofNat ('0'.toNat + digit)) = true := by
  have digits : ∀ digit < 10, Json.isDigit (Char.ofNat ('0'.toNat + digit)) = true := by decide
  refine ⟨?_, digits digit (decimalDigit_lt decimal)⟩
  rw [numberChar, decimal]

/-- A digit that is not decimal stands for no character of a number. -/
theorem numberChar_of_isDigit {point : CodePoint} (digit : isDigit point = true)
    (notDecimal : decimalDigit point = none) : numberChar point = none := by
  have beyond : ∀ range ∈ digitRanges, 0x80 ≤ range.1 := by decide
  rw [isDigit, notDecimal, Option.isSome_none, Bool.false_or, List.any_eq_true] at digit
  obtain ⟨range, listed, within⟩ := digit
  simp only [Bool.and_eq_true, decide_eq_true_eq] at within
  simp only [numberChar, notDecimal]
  exact if_neg (Nat.not_lt.mpr ((beyond range listed).trans within.1))

theorem isSpace_of_isDigit {point : CodePoint} (digit : isDigit point = true) :
    isSpace point = false := by
  have decimals : ∀ start ∈ decimalZeros, ∀ digit < 10,
      isSpace (Json.point (start + digit)) = false := by decide +kernel
  have others : ∀ range ∈ digitRanges, ∀ offset < range.2 + 1 - range.1,
      isSpace (Json.point (range.1 + offset)) = false := by decide +kernel
  have self : Json.point point.val = point := Fin.ofNat_val_eq_self point
  rw [isDigit, Bool.or_eq_true] at digit
  rcases digit with decimal | other
  · rw [decimalDigit, Option.isSome_map] at decimal
    obtain ⟨start, found⟩ := Option.isSome_iff_exists.mp decimal
    have within := List.find?_some found
    simp only [Bool.and_eq_true, decide_eq_true_eq] at within
    have plain := decimals start (List.mem_of_find?_eq_some found) (point.val - start) (by omega)
    rwa [Nat.add_sub_cancel' within.1, self] at plain
  · obtain ⟨range, listed, within⟩ := List.any_eq_true.mp other
    simp only [Bool.and_eq_true, decide_eq_true_eq] at within
    have plain := others range listed (point.val - range.1) (by omega)
    rwa [Nat.add_sub_cancel' within.1, self] at plain

/-- A run of digits spells an integer exactly when all of them are decimal and there are not too
many. -/
theorem toInt_isSome_iff {digits : Text} (filled : digits ≠ [])
    (each : ∀ point ∈ digits, isDigit point = true) :
    (toInt digits).isSome = true ↔
      (∀ point ∈ digits, (decimalDigit point).isSome = true) ∧ digits.length ≤ Json.maxDigits := by
  have plain : stripNumber digits = digits := stripNumber_eq_self fun point member =>
    isSpace_of_isDigit (each point member)
  by_cases decimal : ∀ point ∈ digits, (decimalDigit point).isSome = true
  · have charOf : ∀ point ∈ digits, ∃ digit, decimalDigit point = some digit := fun point member =>
      Option.isSome_iff_exists.mp (decimal point member)
    have read : digits.mapM numberChar =
        some (digits.map fun point => Char.ofNat ('0'.toNat + (decimalDigit point).getD 0)) := by
      refine Fallible.mapM_eq_some_map fun point member => ?_
      obtain ⟨digit, found⟩ := charOf point member
      rw [(numberChar_of_decimalDigit found).1, found, Option.getD_some]
    generalize spelled : digits.map (fun point =>
      Char.ofNat ('0'.toNat + (decimalDigit point).getD 0)) = chars at read
    have all : ∀ char ∈ chars, Json.isDigit char = true := by
      rw [← spelled, List.forall_mem_map]
      intro point member
      obtain ⟨digit, found⟩ := charOf point member
      rw [found, Option.getD_some]
      exact (numberChar_of_decimalDigit found).2
    have size : chars.length = digits.length := by rw [← spelled, List.length_map]
    have bare : dropUnderscores none chars = some chars := by
      refine dropUnderscores_eq_self none fun char member => ?_
      rintro rfl
      exact absurd (all _ member) (by decide)
    have unsigned : splitSign chars = (false, chars) := by
      unfold splitSign
      split
      · exact absurd (all _ List.mem_cons_self) (by decide)
      · exact absurd (all _ List.mem_cons_self) (by decide)
      · rfl
    have present : chars ≠ [] := by
      rw [← List.length_pos_iff, size]
      exact List.length_pos_iff.mpr filled
    unfold toInt
    rw [plain, read]
    simp only [Option.bind_eq_bind, Option.bind_some, bare, unsigned, List.all_eq_true.mpr all,
      present, size, Bool.true_eq_false, false_or]
    rw [and_iff_right decimal]
    split
    next tooLong => simpa using tooLong
    next within => simpa using within
  · refine iff_of_false ?_ fun both => decimal both.1
    push Not at decimal
    obtain ⟨point, member, notDecimal⟩ := decimal
    have notDecimal := Option.not_isSome_iff_eq_none.mp notDecimal
    have unread : digits.mapM numberChar = none :=
      Fallible.mapM_eq_none_iff.mpr ⟨point, member,
        numberChar_of_isDigit (each point member) notDecimal⟩
    unfold toInt
    rw [plain, unread]
    simp

/-! ### Words in texts -/

theorem lower_append (front back : Text) : lower (front ++ back) = lower front ++ lower back :=
  List.flatMap_append

/-- A text in lower case is left alone. -/
theorem lower_lower (chars : Text) : lower (lower chars) = lower chars := by
  have single (point : CodePoint) : lower (lower [point]) = lower [point] := by
    simp only [lower, List.flatMap_singleton]
    split_ifs with capital kelvin dotted
    · have small : (Json.point (point.val + 32)).val = point.val + 32 := by
        have bound : point.val ≤ 90 := capital.2
        exact Nat.mod_eq_of_lt (by omega)
      have least : 65 ≤ point.val := capital.1
      have most : point.val ≤ 90 := capital.2
      rw [List.flatMap_singleton, small, if_neg (by simp only [Char.reduceToNat]; omega),
        if_neg (by omega), if_neg (by omega)]
    · decide
    · decide
    · rw [List.flatMap_singleton, if_neg capital, if_neg kelvin, if_neg dotted]
  induction chars with
  | nil => rfl
  | cons point rest inductionHypothesis =>
    rw [← List.singleton_append, lower_append, lower_append, single, inductionHypothesis]
theorem lower_marks {marks : Text} (decimal : ∀ mark ∈ marks, isDecimalMark mark = true) :
    lower marks = marks := by
  induction marks with
  | nil => rfl
  | cons mark rest inductionHypothesis =>
    obtain ⟨first, others⟩ := List.forall_mem_cons.mp decimal
    have small : mark.val ≤ 0x39 := by
      have both : 0x2D ≤ mark.val ∧ mark.val ≤ 0x39 := by simpa [isDecimalMark] using first
      exact both.2
    have same : lower [mark] = [mark] := by
      simp only [lower, List.flatMap_singleton]
      rw [if_neg fun capital => ?_, if_neg (by omega), if_neg (by omega)]
      have least : 65 ≤ mark.val := capital.1
      omega
    rw [← List.singleton_append, lower_append, same, inductionHypothesis others]

theorem isPrefixOf_append_cons {word back : Text} {mark : CodePoint} (absent : mark ∉ word)
    (front : Text) : word.isPrefixOf (front ++ mark :: back) = word.isPrefixOf front := by
  induction word generalizing front with
  | nil => rfl
  | cons first rest inductionHypothesis =>
    rw [List.mem_cons, not_or] at absent
    cases front with
    | nil =>
      rw [List.nil_append, List.isPrefixOf_cons_cons, beq_eq_false_iff_ne.mpr (Ne.symm absent.1)]
      rfl
    | cons head tail =>
      rw [List.cons_append, List.isPrefixOf_cons_cons, List.isPrefixOf_cons_cons,
        inductionHypothesis absent.2]

theorem contains_cons (point : CodePoint) (rest word : Text) :
    contains (point :: rest) word = (word.isPrefixOf (point :: rest) || contains rest word) := rfl

/-- A word occurs on one side of a character that it does not have. -/
theorem contains_append_cons {word back : Text} {mark : CodePoint} (absent : mark ∉ word)
    (front : Text) :
    contains (front ++ mark :: back) word = (contains front word || contains back word) := by
  induction front with
  | nil =>
    have before : word.isPrefixOf ([] ++ mark :: back) = word.isPrefixOf [] :=
      isPrefixOf_append_cons absent []
    rw [List.nil_append] at before ⊢
    rw [contains_cons, before]
    simp [contains]
  | cons head tail inductionHypothesis =>
    rw [List.cons_append, contains_cons, inductionHypothesis, ← List.cons_append,
      isPrefixOf_append_cons absent, contains_cons, Bool.or_assoc]

/-- A word occurs on one side of characters that it does not have. -/
theorem contains_append_marks {word back marks : Text} (filled : word ≠ []) (marked : marks ≠ [])
    (absent : ∀ mark ∈ marks, mark ∉ word) (front : Text) :
    contains (front ++ marks ++ back) word = (contains front word || contains back word) := by
  induction marks generalizing front with
  | nil => exact absurd rfl marked
  | cons mark rest inductionHypothesis =>
    obtain ⟨first, others⟩ := List.forall_mem_cons.mp absent
    rw [List.append_assoc, List.cons_append, contains_append_cons first]
    cases rest with
    | nil => rfl
    | cons second later =>
      have nothing : contains [] word = false := by
        cases word with
        | nil => exact absurd rfl filled
        | cons point points => rfl
      rw [← List.nil_append (second :: later ++ back), ← List.append_assoc,
        inductionHypothesis (List.cons_ne_nil second later) others, nothing, Bool.false_or]

/-! ### Parts of texts -/

theorem split_eq_splitOn (separator : CodePoint) (chars : Text) :
    split separator chars = chars.splitOn separator := by
  induction chars with
  | nil => rfl
  | cons point rest inductionHypothesis =>
    have whole : (point :: rest).splitOn separator =
        if point == separator then [] :: rest.splitOn separator
        else (rest.splitOn separator).modifyHead (List.cons point) :=
      List.splitOnP_cons_eq_if_modifyHead point rest
    rw [split, inductionHypothesis, whole]
    by_cases mark : point = separator
    · rw [if_pos mark, if_pos (beq_iff_eq.mpr mark)]
    · obtain ⟨part, parts, filled⟩ := List.exists_cons_of_ne_nil
        (List.splitOnP_ne_nil (· == separator) rest)
      have filled : rest.splitOn separator = part :: parts := filled
      rw [if_neg mark, if_neg (mt beq_iff_eq.mp mark), filled]
      rfl

/-- The parts of a text, with the separators between them, are the text. -/
theorem intercalate_split (separator : CodePoint) (chars : Text) :
    List.intercalate [separator] (split separator chars) = chars := by
  rw [split_eq_splitOn]
  exact List.intercalate_splitOn separator

/-- A text without a separator is its only part. -/
theorem split_eq_singleton {separator : CodePoint} {chars : Text} (absent : separator ∉ chars) :
    split separator chars = [chars] := by
  rw [split_eq_splitOn]
  exact List.splitOnP_eq_singleton fun point member => by
    simpa using fun same : point = separator => absent (same ▸ member)

/-- What is in a text is a separator or in one of the parts. -/
theorem mem_iff_mem_split {separator point : CodePoint} {chars : Text}
    (other : point ≠ separator) : point ∈ chars ↔ ∃ part ∈ split separator chars, point ∈ part := by
  induction chars with
  | nil => simp [split]
  | cons first rest inductionHypothesis =>
    rw [List.mem_cons, inductionHypothesis, split]
    by_cases mark : first = separator
    · simp [mark, other]
    · rw [if_neg mark]
      cases split separator rest <;> simp [or_assoc]
end Strings
