import ColumnCrypt.Yaml.Node

/-!
Lines of a YAML document.

The text is split at line feeds; flow collections read the lines as written, the block structure
reads content lines, without a closing carriage return, comment and trailing blanks. A comment
starts at `#` at the line start or after a blank, outside quotes, and a quote opens only where a
scalar could start. A tab where content should start is a fault. A first line `---` opens the
document, and a later `---` or `...` at column 0 ends it. Marks count columns in bytes.
-/
namespace ColumnCrypt.Yaml

/-- A character with its mark. -/
structure Cell where
  char : Char
  mark : Mark
deriving DecidableEq, Repr, Inhabited

def markOr (fallback : Mark) : List Cell → Mark
  | [] => fallback
  | cell :: _ => cell.mark

structure RawLine where
  number : Nat
  cells : List Cell
deriving Repr, Inhabited

/-- A content line: its 0-based number, the column of its first character, and its characters
with their marks. -/
structure Line where
  number : Nat
  column : Nat
  cells : List Cell
deriving Repr, Inhabited

def splitLines : List Char → List (List Char)
  | [] => [[]]
  | c :: rest =>
    match splitLines rest with
    | [] => [[c]]
    | first :: others => if c = '\n' then [] :: first :: others else (c :: first) :: others

def dropReturn (line : List Char) : List Char :=
  if line.getLast? = some '\r' then line.dropLast else line

def isBlank (c : Char) : Bool :=
  c = ' ' || c = '\t'

def isQuote (c : Char) : Bool :=
  c = '\'' || c = '"'

def opensQuoteAfter : Option Char → Bool
  | none => true
  | some c => isBlank c || c = '[' || c = '{' || c = ',' || c = ':' || c = '-'

def opensCommentAfter : Option Char → Bool
  | none => true
  | some c => isBlank c

/-- The part of a line before its comment. The flags tell whether a single or a double quote is
open; outside quotes the character before is given, `none` at the start of the line. -/
def beforeComment (line : List Char) (single double : Bool) (before : Option Char) : List Char :=
  match line with
  | [] => []
  | c :: rest =>
    if double then
      if c = '\\' then
        match _h : rest with
        | d :: more => c :: d :: beforeComment more false true none
        | [] => [c]
      else c :: beforeComment rest false (c != '"') (some c)
    else if single then
      if c = '\'' then
        match _h : rest with
        | '\'' :: more => c :: '\'' :: beforeComment more true false none
        | _ => c :: beforeComment rest false false (some c)
      else c :: beforeComment rest true false none
    else if c = '#' && opensCommentAfter before then []
    else if isQuote c && opensQuoteAfter before then
      c :: beforeComment rest (c = '\'') (c = '"') none
    else c :: beforeComment rest false false (some c)
termination_by line.length
decreasing_by
  all_goals subst_vars
  all_goals simp only [List.length_cons]
  all_goals omega

def dropTrailingBlanks (line : List Char) : List Char :=
  (line.reverse.dropWhile isBlank).reverse

def cellsFrom (number column : Nat) : List Char → List Cell
  | [] => []
  | c :: rest => ⟨c, ⟨number, column⟩⟩ :: cellsFrom number (column + c.utf8Size) rest

def rawLines (text : String) : List RawLine :=
  (splitLines text.toList).zipIdx.map fun (line, number) => ⟨number, cellsFrom number 0 line⟩

def RawLine.endMark (line : RawLine) : Mark :=
  ⟨line.number, line.cells.foldl (fun column cell => column + cell.char.utf8Size) 0⟩

def contentLine (line : RawLine) : Except ParseError (Option Line) :=
  let text := line.cells.map (·.char)
  let content := dropTrailingBlanks (beforeComment (dropReturn text) false false none)
  let indent := (content.takeWhile (· = ' ')).length
  match content.drop indent with
  | [] => .ok none
  | c :: rest =>
    if c = '\t' then .error ⟨.illegalTab, ⟨line.number, indent⟩⟩
    else .ok (some ⟨line.number, indent, cellsFrom line.number indent (c :: rest)⟩)

def contentLines : List RawLine → Except ParseError (List Line)
  | [] => .ok []
  | line :: rest => do
    let first ← contentLine line
    let others ← contentLines rest
    pure (first.toList ++ others)

def Line.text (line : Line) : List Char :=
  line.cells.map (·.char)

def Line.isOpening (line : Line) : Bool :=
  line.column = 0 && (line.text = "---".toList || line.text.take 4 = "--- ".toList)

def Line.isBoundary (line : Line) : Bool :=
  line.isOpening ||
    line.column = 0 && (line.text = "...".toList || line.text.take 4 = "... ".toList)

def Line.afterOpening (line : Line) : Option Line :=
  match (line.cells.drop 3).dropWhile (·.char = ' ') with
  | [] => none
  | first :: rest => some ⟨line.number, first.mark.column, first :: rest⟩

def untilBoundary : List Line → List Line
  | [] => []
  | line :: rest => if line.isBoundary then [] else line :: untilBoundary rest

def documentOf : List Line → List Line
  | [] => []
  | first :: rest =>
    if first.isOpening then first.afterOpening.toList ++ untilBoundary rest
    else untilBoundary (first :: rest)

def streamFrom (source : List RawLine) (mark : Mark) : List Cell :=
  source.flatMap fun line =>
    if line.number < mark.line then []
    else
      (if line.number = mark.line then line.cells.filter (mark.column ≤ ·.mark.column)
       else line.cells) ++ [⟨'\n', line.endMark⟩]

end ColumnCrypt.Yaml
