import ColumnCrypt.Yaml.Line

/-!
Scalars of the YAML subset.

All scalars are texts; a plain `~`, `null`, `Null` or `NULL`, and an empty plain block value, is
null. A quoted scalar closes on its line; in single quotes two quotes stand for one, in double
quotes a backslash starts a one-letter or a hexadecimal escape. Anchors, aliases, tags, block
scalars and directives are not part of the subset.
-/

namespace ColumnCrypt.Yaml

def isUnsupportedStart (c : Char) : Bool :=
  c = '&' || c = '*' || c = '!' || c = '|' || c = '>' || c = '%' || c = '@' || c = '`'

def isNullWord (text : List Char) : Bool :=
  text = ['~'] || text = "null".toList || text = "Null".toList || text = "NULL".toList

def plainNode (text : List Char) (mark : Mark) : Node :=
  if text = [] || isNullWord text then .null mark
  else .scalar (String.ofList text) mark

def flowPlainNode (text : List Char) (mark : Mark) : Node :=
  if isNullWord text then .null mark
  else .scalar (String.ofList text) mark

def simpleEscape? (c : Char) : Option Char :=
  match c with
  | '0' => some '\x00'
  | 'a' => some '\x07'
  | 'b' => some '\x08'
  | 't' => some '\t'
  | '\t' => some '\t'
  | 'n' => some '\n'
  | 'v' => some '\x0b'
  | 'f' => some '\x0c'
  | 'r' => some '\r'
  | 'e' => some '\x1b'
  | ' ' => some ' '
  | '"' => some '"'
  | '/' => some '/'
  | '\\' => some '\\'
  | _ => none

def hexEscapeLength? (c : Char) : Option Nat :=
  match c with
  | 'x' => some 2
  | 'u' => some 4
  | 'U' => some 8
  | _ => none

def hexValue? (c : Char) : Option Nat :=
  if '0' ≤ c ∧ c ≤ '9' then some (c.toNat - '0'.toNat)
  else if 'a' ≤ c ∧ c ≤ 'f' then some (c.toNat - 'a'.toNat + 10)
  else if 'A' ≤ c ∧ c ≤ 'F' then some (c.toNat - 'A'.toNat + 10)
  else none

def readHex (opening : Mark) : Nat → Nat → List Cell → Except ParseError Nat
  | 0, value, _ => .ok value
  | count + 1, value, cells =>
    match cells with
    | [] => .error ⟨.endOfStringNotFound, opening⟩
    | cell :: rest =>
      match hexValue? cell.char with
      | some digit => readHex opening count (value * 16 + digit) rest
      | none => .error ⟨.badHexDigit, cell.mark⟩

def scanSingleQuoted (opening : Mark) : List Cell → Except ParseError (List Char × List Cell)
  | [] => .error ⟨.endOfStringNotFound, opening⟩
  | cell :: rest =>
    if cell.char = '\n' then .error ⟨.endOfStringNotFound, opening⟩
    else if cell.char = '\'' then
      match rest with
      | next :: more =>
        if next.char = '\'' then
          (scanSingleQuoted opening more).map fun (text, after) => ('\'' :: text, after)
        else .ok ([], rest)
      | [] => .ok ([], [])
    else (scanSingleQuoted opening rest).map fun (text, after) => (cell.char :: text, after)

/-- Reads a double-quoted scalar after its opening quote: its text and the cells after the
closing quote. -/
def scanDoubleQuoted (opening : Mark) (cells : List Cell) :
    Except ParseError (List Char × List Cell) :=
  match cells with
  | [] => .error ⟨.endOfStringNotFound, opening⟩
  | cell :: rest =>
    if cell.char = '\n' then .error ⟨.endOfStringNotFound, opening⟩
    else if cell.char = '"' then .ok ([], rest)
    else if cell.char = '\\' then
      match rest with
      | [] => .error ⟨.endOfStringNotFound, opening⟩
      | escape :: more =>
        if escape.char = '\n' then .error ⟨.endOfStringNotFound, opening⟩
        else match simpleEscape? escape.char with
          | some c => (scanDoubleQuoted opening more).map fun (text, after) => (c :: text, after)
          | none =>
            match hexEscapeLength? escape.char with
            | none => .error ⟨.unknownEscape escape.char, escape.mark⟩
            | some count => do
              let code ← readHex opening count 0 more
              if (0xD800 ≤ code ∧ code ≤ 0xDFFF) ∨ 0x10FFFF < code then
                throw ⟨.invalidUnicode, markOr escape.mark (more.drop count)⟩
              let (text, after) ← scanDoubleQuoted opening (more.drop count)
              pure (Char.ofNat code :: text, after)
    else (scanDoubleQuoted opening rest).map fun (text, after) => (cell.char :: text, after)
termination_by cells.length
decreasing_by
  all_goals simp only [List.length_cons, List.length_drop]
  all_goals omega

def scanQuoted (quote : Cell) (rest : List Cell) : Except ParseError (Node × List Cell) := do
  let (text, after) ←
    if quote.char = '\'' then scanSingleQuoted quote.mark rest else scanDoubleQuoted quote.mark rest
  pure (.scalar (String.ofList text) quote.mark, after)

end ColumnCrypt.Yaml
