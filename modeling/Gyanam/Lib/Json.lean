/-
This file builds the JSON decoder of Python's standard library. A text is a list
of code points, surrogates included, since an escape may denote a lone one. The
scanner goes through the characters once, with a mode for strings and escapes;
the parser goes through the tokens once, with a stack of the open arrays and
objects. Both are folds, so nothing about them needs fuel.

Numbers follow the source too. An integer has any size up to the limit on the
digits of a literal, and a literal with a fraction or an exponent is the double
nearest to it. Nesting deeper than the interpreter's limit is an error.
-/

import Mathlib.Algebra.Ring.Rat
import Mathlib.Data.List.Basic

namespace Json

/-! ### Texts -/

/-- A code point of a string; lone surrogates occur. -/
abbrev CodePoint := Fin 0x110000

/-- A string value. -/
abbrev Text := List CodePoint

instance : LawfulBEq Text := inferInstance

/-- The code point with a number. -/
def point (value : Nat) : CodePoint := Fin.ofNat _ value

/-- The code points of a literal. -/
def text (literal : String) : Text := literal.toList.map fun char => point char.toNat

/-- Join the surrogate pairs that two escapes in a row denote. -/
def joinSurrogates : Text → Text
  | high :: low :: rest =>
    if 0xD800 ≤ high.val ∧ high.val < 0xDC00 ∧ 0xDC00 ≤ low.val ∧ low.val < 0xE000 then
      point (0x10000 + (high.val - 0xD800) * 0x400 + (low.val - 0xDC00)) ::
        joinSurrogates rest
    else high :: joinSurrogates (low :: rest)
  | short => short

end Json

/-! ### Doubles -/

/-- The value of a double. The two zeros are one value. -/
inductive Double where
  | finite (value : Rat)
  | infinite (negative : Bool)
  | nan
  deriving DecidableEq

namespace Double

/-- The double nearest to `numerator / denominator`, ties to even, if it is finite. -/
def nearest (numerator denominator : Nat) : Option Rat :=
  if numerator = 0 then some 0
  else
    let guess : Int := (numerator.log2 : Int) - denominator.log2
    let reached := denominator * 2 ^ guess.toNat ≤ numerator * 2 ^ (-guess).toNat
    let exponent := if reached then guess else guess - 1
    let unit := max (exponent - 52) (-1074)
    let scaled := numerator * 2 ^ (-unit).toNat
    let divisor := denominator * 2 ^ unit.toNat
    let low := scaled / divisor
    let rest := scaled % divisor
    let rounded := if divisor < 2 * rest ∨ (divisor = 2 * rest ∧ low % 2 = 1) then low + 1 else low
    let value : Rat := (rounded * 2 ^ unit.toNat : Nat) / (2 ^ (-unit).toNat : Nat)
    if value < (2 ^ 1024 : Nat) then some value else none

/-- The double of a decimal literal. -/
def ofDecimal (negative : Bool) (digits : Nat) (exponent : Int) : Double :=
  match nearest (digits * 10 ^ exponent.toNat) (10 ^ (-exponent).toNat) with
  | some value => .finite (if negative then -value else value)
  | none => .infinite negative

/-- The double nearest to a ratio of integers. -/
def ofRatio (numerator : Int) (denominator : Nat) : Double :=
  match nearest numerator.natAbs denominator with
  | some value => .finite (if numerator < 0 then -value else value)
  | none => .infinite (numerator < 0)

/-- The order of doubles; what is not a number compares with nothing. -/
def lt : Double → Double → Bool
  | .finite first, .finite second => first < second
  | .finite _, .infinite negative => !negative
  | .infinite negative, .finite _ => negative
  | .infinite negative, .infinite negative' => negative && !negative'
  | _, _ => false

/-- At most: less, or the same number. -/
def le (first second : Double) : Bool := lt first second || (first ≠ .nan && first = second)

end Double

/-! ### Values -/

/-- A decoded value. The members of an object have distinct keys, in the order of their first
occurrence. -/
inductive Json where
  | null
  | bool (value : Bool)
  | int (value : Int)
  | float (value : Double)
  | string (value : Json.Text)
  | array (items : List Json)
  | object (members : List (Json.Text × Json))

namespace Json

/-- What the decoder raises: octets that are no text, a text that is not JSON, an integer literal
with too many digits, or too deep a nesting. -/
inductive DecodeError where
  | encoding
  | malformed
  | digits
  | recursion
  deriving DecidableEq, Repr

section Members

variable {Key : Type} [BEq Key]

/-- Set a key of an object: an old key keeps its place. -/
def setMember (members : List (Key × Json)) (key : Key) (value : Json) : List (Key × Json) :=
  if members.any fun member => member.1 == key then
    members.map fun member => if member.1 == key then (key, value) else member
  else members ++ [(key, value)]

/-- Set the keys of another object, in its order. -/
def setMembers (members more : List (Key × Json)) : List (Key × Json) :=
  more.foldl (fun merged member => setMember merged member.1 member.2) members

/-- Look a key up. -/
def getMember (members : List (Key × Json)) (key : Key) : Option Json :=
  members.lookup key

theorem getMember_setMember [LawfulBEq Key] (members : List (Key × Json)) (key : Key)
    (value : Json) :
    getMember (setMember members key value) key = some value := by
  unfold setMember getMember
  split
  · rename_i present
    induction members with
    | nil => cases present
    | cons member rest inductionHypothesis =>
      rw [List.map_cons]
      by_cases same : member.1 = key
      · simp [same]
      · rw [List.any_cons, beq_false_of_ne same, Bool.false_or] at present
        rw [if_neg (by rwa [beq_iff_eq]), List.lookup_cons, beq_false_of_ne (Ne.symm same)]
        exact inductionHypothesis present
  · rename_i absent
    induction members with
    | nil => simp
    | cons member rest inductionHypothesis =>
      rw [List.any_cons, Bool.or_eq_true, not_or, beq_iff_eq] at absent
      rw [List.cons_append, List.lookup_cons, beq_false_of_ne (Ne.symm absent.1)]
      exact inductionHypothesis absent.2

end Members

/-- The truth of a value. -/
def truthy : Json → Bool
  | null => false
  | bool value => value
  | int value => value ≠ 0
  | float (.finite value) => value ≠ 0
  | float _ => true
  | string value => !value.isEmpty
  | array items => !items.isEmpty
  | object members => !members.isEmpty

/-- What a loop over a value goes through, if it can be looped over: the items of an array, the
characters of a string, the keys of an object. -/
def iterated : Json → Option (List Json)
  | array items => some items
  | string chars => some (chars.map fun char => string [char])
  | object members => some (members.map fun member => string member.1)
  | _ => none

/-! ### The scanner -/

inductive Token where
  | mark (char : Char)
  | string (value : Text)
  | atom (value : Json)

def isDigit (char : Char) : Bool := '0' ≤ char && char ≤ '9'

def digitsValue (digits : List Char) : Nat :=
  digits.foldl (fun value digit => 10 * value + (digit.toNat - '0'.toNat)) 0

/-- Split leading digits off. -/
def spanDigits (chars : List Char) : List Char × List Char := chars.span isDigit

/-- The exponent of a number and what follows it; none when there is no exponent. -/
def scanExponent (chars : List Char) : Option Int × List Char :=
  match chars with
  | mark :: rest =>
    if mark = 'e' ∨ mark = 'E' then
      let signed := match rest with
        | '-' :: digits => (true, digits)
        | '+' :: digits => (false, digits)
        | digits => (false, digits)
      match spanDigits signed.2 with
      | ([], _) => (none, chars)
      | (digits, after) =>
        (some (if signed.1 then -(digitsValue digits : Int) else digitsValue digits), after)
    else (none, chars)
  | [] => (none, [])

/-- The fraction digits of a number and what follows them; none when there is no fraction. -/
def scanFraction (chars : List Char) : Option (List Char) × List Char :=
  match chars with
  | '.' :: rest =>
    match spanDigits rest with
    | ([], _) => (none, chars)
    | (digits, after) => (some digits, after)
  | _ => (none, chars)

/-- The most digits an integer literal may have. -/
def maxDigits : Nat := 4300

/-- A whole lexeme as a number. -/
def scanNumber (lexeme : List Char) : Except DecodeError Json :=
  let (negative, unsigned) := match lexeme with
    | '-' :: rest => (true, rest)
    | rest => (false, rest)
  let (whole, afterWhole) := match unsigned with
    | '0' :: rest => (['0'], rest)
    | chars => spanDigits chars
  let (fraction, afterFraction) := scanFraction afterWhole
  let (exponent, afterExponent) := scanExponent afterFraction
  if whole = [] ∨ afterExponent ≠ [] then .error .malformed
  else match fraction, exponent with
    | none, none =>
      if maxDigits < whole.length then .error .digits
      else .ok (int (if negative then -(digitsValue whole : Int) else digitsValue whole))
    | _, _ =>
      let places := fraction.getD []
      .ok (float (Double.ofDecimal negative (digitsValue (whole ++ places))
        (exponent.getD 0 - places.length)))

/-- A lexeme as a constant or a number. -/
def scanAtom (lexeme : List Char) : Except DecodeError Json :=
  if lexeme = "null".toList then .ok null
  else if lexeme = "true".toList then .ok (bool true)
  else if lexeme = "false".toList then .ok (bool false)
  else if lexeme = "NaN".toList then .ok (float .nan)
  else if lexeme = "Infinity".toList then .ok (float (.infinite false))
  else if lexeme = "-Infinity".toList then .ok (float (.infinite true))
  else scanNumber lexeme

/-- The characters of constants and numbers. -/
def isAtomChar (char : Char) : Bool :=
  isDigit char || ('a' ≤ char && char ≤ 'z') || ('A' ≤ char && char ≤ 'Z') ||
    char = '+' || char = '-' || char = '.'

def isSpace (char : Char) : Bool := char = ' ' || char = '\t' || char = '\n' || char = '\r'

def isMark (char : Char) : Bool :=
  char = '[' || char = ']' || char = '\x7b' || char = '\x7d' || char = ',' || char = ':'

def hexValue (char : Char) : Option Nat :=
  if '0' ≤ char ∧ char ≤ '9' then some (char.toNat - '0'.toNat)
  else if 'a' ≤ char ∧ char ≤ 'f' then some (char.toNat - 'a'.toNat + 10)
  else if 'A' ≤ char ∧ char ≤ 'F' then some (char.toNat - 'A'.toNat + 10)
  else none

/-- The character a one-letter escape denotes. -/
def escapeValue (char : Char) : Option Nat :=
  match char with
  | '\x22' => some 0x22
  | '\x5c' => some 0x5C
  | '/' => some 0x2F
  | 'b' => some 0x08
  | 'f' => some 0x0C
  | 'n' => some 0x0A
  | 'r' => some 0x0D
  | 't' => some 0x09
  | _ => none

/-- Where the scanner is: between tokens with the lexeme read so far, in a string, after a
backslash, or in an escape with its hexadecimal digits read so far. -/
inductive Mode where
  | outside (lexeme : List Char)
  | string (chars : Text)
  | escape (chars : Text)
  | hex (chars : Text) (count value : Nat)

/-- The token of the lexeme before a delimiter, if there is one. -/
def flush (lexeme : List Char) : Except DecodeError (List Token) :=
  if lexeme = [] then .ok [] else (scanAtom lexeme).map fun value => [.atom value]

/-- One character outside a string. -/
def scanOutside (lexeme : List Char) (char : Char) : Except DecodeError (Mode × List Token) :=
  if isAtomChar char then .ok (.outside (lexeme ++ [char]), [])
  else if isSpace char then (flush lexeme).map fun tokens => (.outside [], tokens)
  else if isMark char then (flush lexeme).map fun tokens => (.outside [], tokens ++ [.mark char])
  else if char = '\x22' then (flush lexeme).map fun tokens => (.string [], tokens)
  else .error .malformed

/-- One character: the next mode, and the tokens it completes. A lone surrogate is no character
and stands in strings only. -/
def scanPoint (mode : Mode) (point : CodePoint) : Except DecodeError (Mode × List Token) :=
  let char := Char.ofNat point.val
  match mode with
  | .outside lexeme => scanOutside lexeme char
  | .string chars =>
    if char = '\x22' then .ok (.outside [], [.string (joinSurrogates chars)])
    else if char = '\x5c' then .ok (.escape chars, [])
    else if point.val < 0x20 then .error .malformed
    else .ok (.string (chars ++ [point]), [])
  | .escape chars =>
    if char = 'u' then .ok (.hex chars 0 0, [])
    else match escapeValue char with
      | some value => .ok (.string (chars ++ [Json.point value]), [])
      | none => .error .malformed
  | .hex chars count value =>
    match hexValue char with
    | some digit =>
      if count = 3 then .ok (.string (chars ++ [Json.point (16 * value + digit)]), [])
      else .ok (.hex chars (count + 1) (16 * value + digit), [])
    | none => .error .malformed

/-! ### The parser -/

/-- An open array or object around the value to come. -/
inductive Frame where
  | array (items : List Json)
  | object (members : List (Text × Json)) (key : Text)

/-- What comes next. -/
inductive Expect where
  | value
  | itemOrEnd
  | key (members : List (Text × Json))
  | keyOrEnd
  | colon (members : List (Text × Json)) (key : Text)
  | delimiter (value : Json)

structure Parser where
  expect : Expect := .value
  frames : List Frame := []

/-- A token where a value starts. Inside as many frames as the limit, no container opens. -/
def startValue (limit : Nat) (frames : List Frame) : Token → Except DecodeError Parser
  | .atom value => .ok ⟨.delimiter value, frames⟩
  | .string value => .ok ⟨.delimiter (string value), frames⟩
  | .mark char =>
    if char = '[' ∨ char = '\x7b' then
      if limit ≤ frames.length then .error .recursion
      else .ok ⟨if char = '[' then .itemOrEnd else .keyOrEnd, frames⟩
    else .error .malformed

/-- A mark after a value: the next item or member, or the end of the innermost frame. -/
def endValue (value : Json) (char : Char) : List Frame → Except DecodeError Parser
  | .array items :: frames =>
    if char = ',' then .ok ⟨.value, .array (items ++ [value]) :: frames⟩
    else if char = ']' then .ok ⟨.delimiter (array (items ++ [value])), frames⟩
    else .error .malformed
  | .object members key :: frames =>
    if char = ',' then .ok ⟨.key (setMember members key value), frames⟩
    else if char = '\x7d' then .ok ⟨.delimiter (object (setMember members key value)), frames⟩
    else .error .malformed
  | [] => .error .malformed

/-- One token. -/
def parseToken (limit : Nat) (parser : Parser) (token : Token) : Except DecodeError Parser :=
  match parser.expect, token with
  | .value, token => startValue limit parser.frames token
  | .itemOrEnd, .mark ']' => .ok ⟨.delimiter (array []), parser.frames⟩
  | .itemOrEnd, token => startValue limit (.array [] :: parser.frames) token
  | .keyOrEnd, .mark '\x7d' => .ok ⟨.delimiter (object []), parser.frames⟩
  | .keyOrEnd, .string key => .ok ⟨.colon [] key, parser.frames⟩
  | .key members, .string key => .ok ⟨.colon members key, parser.frames⟩
  | .colon members key, .mark ':' => .ok ⟨.value, .object members key :: parser.frames⟩
  | .delimiter value, .mark char => endValue value char parser.frames
  | _, _ => .error .malformed

/-- One character, through the scanner and the parser. -/
def readPoint (limit : Nat) (state : Mode × Parser) (point : CodePoint) :
    Except DecodeError (Mode × Parser) := do
  let (mode, tokens) ← scanPoint state.1 point
  let parser ← tokens.foldlM (parseToken limit) state.2
  return (mode, parser)

/-- The value of a whole text. -/
def loads (limit : Nat) (chars : Text) : Except DecodeError Json := do
  let (mode, parser) ← chars.foldlM (readPoint limit) (.outside [], {})
  let tokens ← match mode with
    | .outside lexeme => flush lexeme
    | _ => .error .malformed
  match ← tokens.foldlM (parseToken limit) parser with
  | ⟨.delimiter value, []⟩ => return value
  | _ => .error .malformed

/-! ### Octets -/

/-- A UTF-8 decoder between octets: how many continuation octets it is owed, the bounds of the next
one, and the value so far. -/
structure Utf8 where
  owed : Nat := 0
  low : Nat := 0x80
  high : Nat := 0xBF
  value : Nat := 0
  decoded : Text := []

/-- One octet. Encoded surrogates pass. -/
def Utf8.octet (state : Utf8) (octet : UInt8) : Option Utf8 :=
  let byte := octet.toNat
  match state.owed with
  | 0 =>
    if byte < 0x80 then some { state with decoded := state.decoded ++ [point byte] }
    else if 0xC2 ≤ byte ∧ byte ≤ 0xDF then some { state with owed := 1, value := byte - 0xC0 }
    else if 0xE0 ≤ byte ∧ byte ≤ 0xEF then
      some { state with
        owed := 2, value := byte - 0xE0, low := if byte = 0xE0 then 0xA0 else 0x80 }
    else if 0xF0 ≤ byte ∧ byte ≤ 0xF4 then
      some { state with
        owed := 3, value := byte - 0xF0
        low := if byte = 0xF0 then 0x90 else 0x80
        high := if byte = 0xF4 then 0x8F else 0xBF }
    else none
  | owed + 1 =>
    if byte < state.low ∨ state.high < byte then none
    else
      let value := 0x40 * state.value + (byte - 0x80)
      some {
        owed := owed
        value := if owed = 0 then 0 else value
        decoded := if owed = 0 then state.decoded ++ [point value] else state.decoded }

def decodeUtf8 (octets : List UInt8) : Option Text :=
  (octets.foldlM Utf8.octet {}).bind fun state =>
    if state.owed = 0 then some state.decoded else none

/-- The value of a group of octets, most significant first. -/
def groupValue (octets : List UInt8) : Nat := octets.foldl (fun value octet =>
  0x100 * value + octet.toNat) 0

/-- The octets in groups of a fixed size, each in the given order of significance. -/
def decodeUnits (size : Nat) (littleEndian : Bool) (octets : List UInt8) : Option Text :=
  if octets.length % size ≠ 0 then none
  else
    let units := (List.range (octets.length / size)).map fun index =>
      let unit := (octets.drop (index * size)).take size
      groupValue (if littleEndian then unit.reverse else unit)
    if units.all (· < 0x110000) then some (units.map point) else none

/-- Decode octets by their byte order mark, or by where the zeros of the first characters are. -/
def decodeOctets (octets : List UInt8) : Option Text :=
  match octets with
  | 0x00 :: 0x00 :: 0xFE :: 0xFF :: rest => decodeUnits 4 false rest
  | 0xFF :: 0xFE :: 0x00 :: 0x00 :: rest => decodeUnits 4 true rest
  | 0xFE :: 0xFF :: rest => (decodeUnits 2 false rest).map joinSurrogates
  | 0xFF :: 0xFE :: rest => (decodeUnits 2 true rest).map joinSurrogates
  | 0xEF :: 0xBB :: 0xBF :: rest => decodeUtf8 rest
  | first :: second :: third :: fourth :: _ =>
    if first = 0 then
      if second = 0 then decodeUnits 4 false octets
      else (decodeUnits 2 false octets).map joinSurrogates
    else if second = 0 then
      if third = 0 ∧ fourth = 0 then decodeUnits 4 true octets
      else (decodeUnits 2 true octets).map joinSurrogates
    else decodeUtf8 octets
  | [first, second] =>
    if first = 0 then (decodeUnits 2 false octets).map joinSurrogates
    else if second = 0 then (decodeUnits 2 true octets).map joinSurrogates
    else decodeUtf8 octets
  | _ => decodeUtf8 octets

/-- The value of a whole document given as octets. -/
def loadsOctets (limit : Nat) (octets : List UInt8) : Except DecodeError Json :=
  match decodeOctets octets with
  | some chars => loads limit chars
  | none => .error .encoding

end Json
