/-!
Binary64 words, how answers write them, and how texts are read as doubles.

A double is kept as its 64-bit word, so values compare exactly and the printer works on natural
numbers. The general notation rounds the exact value `m · 2 ^ q` once to a fixed count of
significant digits, a tie going to the even neighbour. A text is read the lenient way of the C
library, the longest number at its front counting.
-/

namespace ColumnCrypt

/-- A double-precision value, held as its 64-bit word. -/
structure Binary64 where
  bits : UInt64
deriving DecidableEq, Repr, Inhabited

namespace Binary64

inductive Shape where
  | nan (negative : Bool)
  | infinity (negative : Bool)
  | finite (negative : Bool) (m : Nat) (q : Int)
deriving DecidableEq, Repr

def negative (x : Binary64) : Bool :=
  x.bits.toNat / 9223372036854775808 % 2 = 1

def exponentField (x : Binary64) : Nat :=
  x.bits.toNat / 4503599627370496 % 2048

def fraction (x : Binary64) : Nat :=
  x.bits.toNat % 4503599627370496

/-- Reads the word: the field `2047` holds the infinities and NaNs, the field `0` the zeros and
subnormals `f · 2 ^ -1074`, and any other field `e` the normal value `(2 ^ 52 + f) · 2 ^ (e - 1075)`. -/
def classify (x : Binary64) : Shape :=
  let field := x.exponentField
  if field = 2047 then
    if x.fraction = 0 then .infinity x.negative else .nan x.negative
  else if field = 0 then
    .finite x.negative x.fraction (-1074)
  else
    .finite x.negative (4503599627370496 + x.fraction) ((field : Int) - 1075)

def ofFloat (x : Float) : Binary64 :=
  ⟨x.toBits⟩

def quietNaN : Binary64 :=
  ⟨0x7FF8000000000000⟩

def infinity : Binary64 :=
  ⟨0x7FF0000000000000⟩

def neg (x : Binary64) : Binary64 :=
  ⟨x.bits ^^^ 0x8000000000000000⟩

end Binary64

end ColumnCrypt

/-! ### General notation -/

namespace ColumnCrypt.Binary64

/-- The choices that fix one general notation. -/
structure GeneralFormat where
  precision : Nat
  lowestPositional : Int
  exponentDigits : Nat
  infinityText : String
  nanText : String

/-- Answers write doubles with seventeen significant digits, positionally from `1e-4`, an exponent
of at least two digits, and the texts `inf` and `nan`. -/
def GeneralFormat.answer : GeneralFormat :=
  ⟨17, -4, 2, "inf", "nan"⟩

def roundHalfEven (n d : Nat) : Nat :=
  let quotient := n / d
  let twice := 2 * (n % d)
  if twice > d ∨ (twice = d ∧ quotient % 2 = 1) then quotient + 1 else quotient

def decimalLength (n : Nat) : Nat :=
  (Nat.toDigits 10 n).length

def decimalExponent (a b : Nat) : Int :=
  let k : Int := (decimalLength a : Int) - decimalLength b
  let atLeast : Bool :=
    if 0 ≤ k then decide (b * Nat.pow 10 k.toNat ≤ a) else decide (b ≤ a * Nat.pow 10 (-k).toNat)
  if atLeast then k else k - 1

/-- The value `a / b` rounded to `precision` significant digits: the digits as one natural number
of exactly `precision` digits, and the decimal exponent of its first digit. -/
def significantDigits (precision : Nat) (a b : Nat) : Nat × Int :=
  let exponent := decimalExponent a b
  let shift : Int := (precision : Int) - 1 - exponent
  let digits :=
    if 0 ≤ shift then roundHalfEven (a * Nat.pow 10 shift.toNat) b
    else roundHalfEven a (b * Nat.pow 10 (-shift).toNat)
  if digits = Nat.pow 10 precision then (Nat.pow 10 (precision - 1), exponent + 1) else (digits, exponent)

def dropTrailingZeros (digits : List Char) : List Char :=
  (digits.reverse.dropWhile (· = '0')).reverse

def fractionPart (digits : List Char) : List Char :=
  match dropTrailingZeros digits with
  | [] => []
  | kept => '.' :: kept

def paddedDigits (width n : Nat) : List Char :=
  let digits := Nat.toDigits 10 n
  List.replicate (width - digits.length) '0' ++ digits

def positiveText (format : GeneralFormat) (m : Nat) (q : Int) : String :=
  if m = 0 then "0" else
  let (a, b) := if 0 ≤ q then (m * Nat.pow 2 q.toNat, 1) else (m, Nat.pow 2 (-q).toNat)
  let (number, exponent) := significantDigits format.precision a b
  let digits := paddedDigits format.precision number
  if format.lowestPositional ≤ exponent ∧ exponent < format.precision then
    if 0 ≤ exponent then
      let whole := exponent.toNat + 1
      String.ofList (digits.take whole ++ fractionPart (digits.drop whole))
    else
      String.ofList ('0' :: fractionPart (List.replicate ((-exponent).toNat - 1) '0' ++ digits))
  else
    let mark := if exponent < 0 then '-' else '+'
    String.ofList (digits.take 1 ++ fractionPart (digits.drop 1) ++ ['e', mark] ++
      paddedDigits format.exponentDigits exponent.natAbs)

def render (format : GeneralFormat) (x : Binary64) : String :=
  let sign (negative : Bool) : String := if negative then "-" else ""
  match x.classify with
  | .nan negative => sign negative ++ format.nanText
  | .infinity negative => sign negative ++ format.infinityText
  | .finite negative m q => sign negative ++ positiveText format m q

/-- The text with which answers write a double. -/
def general (x : Binary64) : String :=
  render GeneralFormat.answer x

/-! ### Reading -/

def isBlank (c : Char) : Bool :=
  c = ' ' || c = '\t' || c = '\n' || c = '\x0b' || c = '\x0c' || c = '\r'

def hexDigitValue? (c : Char) : Option Nat :=
  if '0' ≤ c ∧ c ≤ '9' then some (c.toNat - '0'.toNat)
  else if 'a' ≤ c ∧ c ≤ 'f' then some (c.toNat - 'a'.toNat + 10)
  else if 'A' ≤ c ∧ c ≤ 'F' then some (c.toNat - 'A'.toNat + 10)
  else none

def dropWord? (word text : List Char) : Option (List Char) :=
  if (text.take word.length).map Char.toLower == word then some (text.drop word.length) else none

def takeDigits (base : Nat) : List Char → Nat → Nat → Nat × Nat × List Char
  | c :: rest, value, count =>
    match hexDigitValue? c with
    | some d => if d < base then takeDigits base rest (value * base + d) (count + 1)
                else (value, count, c :: rest)
    | none => (value, count, c :: rest)
  | [], value, count => (value, count, [])

def readExponent (marks : List Char) (text : List Char) : Int × List Char :=
  match text with
  | c :: rest =>
    if marks.contains c then
      let (negative, digits) :=
        match rest with
        | '-' :: more => (true, more)
        | '+' :: more => (false, more)
        | _ => (false, rest)
      let (value, count, after) := takeDigits 10 digits 0 0
      if count = 0 then (0, text) else (if negative then -(value : Int) else value, after)
    else (0, text)
  | [] => (0, [])

def decimalDigitCount (value : Nat) : Nat :=
  (Nat.toDigits 10 value).length

/-- A decimal `digits · 10 ^ exponent` rounded to the nearest double. A value whose leading digit
stands beyond the range of doubles gives an infinity or zero at once. -/
def ofDecimal (digits : Nat) (exponent : Int) : Binary64 :=
  if digits = 0 then ⟨0⟩
  else if exponent + decimalDigitCount digits > 310 then infinity
  else if exponent + decimalDigitCount digits < -330 then ⟨0⟩
  else if 0 ≤ exponent then ofFloat (Float.ofScientific digits false exponent.toNat)
  else ofFloat (Float.ofScientific digits true (-exponent).toNat)

/-- A hexadecimal `digits · 2 ^ exponent` rounded to the nearest double, beyond the range an
infinity or a zero. A negative power of two is the exact decimal `digits · 5 ^ k · 10 ^ -k`. -/
def ofHexadecimal (digits : Nat) (exponent : Int) : Binary64 :=
  if digits = 0 then ⟨0⟩
  else if exponent + Nat.log2 digits > 1100 then infinity
  else if exponent + Nat.log2 digits < -1200 then ⟨0⟩
  else if 0 ≤ exponent then ofFloat (Float.ofScientific (digits * Nat.pow 2 exponent.toNat) false 0)
  else ofFloat (Float.ofScientific (digits * Nat.pow 5 (-exponent).toNat) true (-exponent).toNat)

def isNanTailChar (c : Char) : Bool :=
  c.isAlphanum || c = '_'

def dropNanTail? : List Char → Option (List Char)
  | '(' :: rest =>
    match rest.dropWhile isNanTailChar with
    | ')' :: after => some after
    | _ => none
  | _ => none

def takeSignificand (base : Nat) (text : List Char) : Nat × Nat × Nat × List Char :=
  let (whole, wholeCount, afterWhole) := takeDigits base text 0 0
  match afterWhole with
  | '.' :: more =>
    let (value, count, after) := takeDigits base more whole wholeCount
    (value, count, count - wholeCount, after)
  | _ => (whole, wholeCount, 0, afterWhole)

def readDecimal (text : List Char) : Option (Binary64 × List Char) :=
  let (value, count, fractionCount, afterFraction) := takeSignificand 10 text
  if count = 0 then none
  else
    let (exponent, after) := readExponent ['e', 'E'] afterFraction
    some (ofDecimal value (exponent - fractionCount), after)

def readMagnitude (text : List Char) : Option (Binary64 × List Char) :=
  match dropWord? "inf".toList text with
  | some rest => some (infinity, (dropWord? "inity".toList rest).getD rest)
  | none =>
    match dropWord? "nan".toList text with
    | some rest => some (quietNaN, (dropNanTail? rest).getD rest)
    | none =>
      match text with
      | '0' :: x :: rest =>
        if x = 'x' || x = 'X' then
          let (value, count, fractionCount, afterFraction) := takeSignificand 16 rest
          if count = 0 then some (⟨0⟩, x :: rest)
          else
            let (exponent, after) := readExponent ['p', 'P'] afterFraction
            some (ofHexadecimal value (exponent - 4 * (fractionCount : Int)), after)
        else readDecimal text
      | _ => readDecimal text

/-- Reads the number at the front of a text, with the rest after it; `none` when the text does
not start with one. -/
def readPrefix (text : List Char) : Option (Binary64 × List Char) :=
  let rest := text.dropWhile isBlank
  let (negative, unsigned) :=
    match rest with
    | '-' :: more => (true, more)
    | '+' :: more => (false, more)
    | _ => (false, rest)
  (readMagnitude unsigned).map fun (x, after) => (if negative then x.neg else x, after)

/-- The double a text stands for, when the whole text is one number. -/
def read? (text : String) : Option Binary64 :=
  match readPrefix text.toList with
  | some (x, []) => some x
  | _ => none

end ColumnCrypt.Binary64
