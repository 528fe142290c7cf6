/-!
Names folded by ASCII case, and decimal integers of 64 bits.

Names are compared after folding ASCII letters only: "É" and "é" stay two names, "T_User" and
"t_user" are one. `leadingInt64?` reads the integer at the front of a text the lenient way:
blanks, an optional sign, at least one digit, and anything after the digits ignored.
-/

namespace ColumnCrypt.Text

/-- Folds every ASCII capital letter of a name to its small letter. -/
def lowerAscii (name : String) : String :=
  String.ofList (name.toList.map Char.toLower)

def upperAscii (name : String) : String :=
  String.ofList (name.toList.map Char.toUpper)

@[simp] theorem toList_lowerAscii (name : String) :
    (lowerAscii name).toList = name.toList.map Char.toLower := by
  simp [lowerAscii]

@[simp] theorem toList_upperAscii (name : String) :
    (upperAscii name).toList = name.toList.map Char.toUpper := by
  simp [upperAscii]

/-! ### Decimal integers -/

def decimal (n : Int64) : String :=
  toString n.toInt

def leadingDigits : List Char → Nat → Nat → Nat × Nat × List Char
  | c :: rest, value, count =>
    if c.isDigit then leadingDigits rest (value * 10 + (c.toNat - '0'.toNat)) (count + 1)
    else (value, count, c :: rest)
  | [], value, count => (value, count, [])

def toInt64? (n : Int) : Option Int64 :=
  if -9223372036854775808 ≤ n ∧ n < 9223372036854775808 then some (Int64.ofInt n) else none

def int64OfDecimal? (text : String) : Option Int64 :=
  let (negative, digits) :=
    match text.toList with
    | '-' :: rest => (true, rest)
    | all => (false, all)
  match leadingDigits digits 0 0 with
  | (value, count, []) =>
    if count = 0 then none else toInt64? (if negative then -(value : Int) else value)
  | _ => none

def isLeadingBlank (c : Char) : Bool :=
  c = ' ' || c = '\t' || c = '\n' || c = '\x0b' || c = '\x0c' || c = '\r'

/-- Reads the integer at the front of a text: blanks, an optional sign, then at least one digit;
what follows the digits is ignored. -/
def leadingInt64? (text : String) : Option Int64 :=
  let rest := text.toList.dropWhile isLeadingBlank
  let (negative, digits) :=
    match rest with
    | '-' :: more => (true, more)
    | '+' :: more => (false, more)
    | _ => (false, rest)
  let (value, count, _) := leadingDigits digits 0 0
  if count = 0 then none else toInt64? (if negative then -(value : Int) else value)

end ColumnCrypt.Text
