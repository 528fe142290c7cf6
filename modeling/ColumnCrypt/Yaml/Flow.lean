import ColumnCrypt.Yaml.Scalar

/-!
Flow collections of the YAML subset.

A flow collection is read from the text as written, across lines and document boundaries if it
must. Items are separated by commas, between them blanks, line ends and comments are skipped,
and a plain scalar ends at an indicator, a comment or a `:` followed by a blank. A collection
left open is a fault at its opening bracket when the text ends, else where a separator should
stand. Every step takes one unit of a budget larger than the count of cells.
-/

namespace ColumnCrypt.Yaml

def isFlowIndicator (c : Char) : Bool :=
  c = ',' || c = '[' || c = ']' || c = '{' || c = '}'

def isFlowSpace (c : Char) : Bool :=
  c = ' ' || c = '\t' || c = '\r' || c = '\n'

def skipGaps : Bool → Bool → List Cell → List Cell
  | _, _, [] => []
  | inComment, spaced, cell :: rest =>
    if inComment then
      if cell.char = '\n' then skipGaps false true rest else skipGaps true false rest
    else if isFlowSpace cell.char then skipGaps false (cell.char != '\r') rest
    else if cell.char = '#' && spaced then skipGaps true false rest
    else cell :: rest

def skipItemGaps (cells : List Cell) : List Cell :=
  skipGaps false false cells

def endsFlowKey : List Cell → Bool
  | [] => true
  | next :: _ => isFlowSpace next.char || isFlowIndicator next.char

def startsWithHash : List Cell → Bool
  | cell :: _ => cell.char = '#'
  | [] => false

def takeFlowPlain : List Cell → List Char × List Cell
  | [] => ([], [])
  | cell :: rest =>
    if isFlowIndicator cell.char || cell.char = '\n' || (cell.char = ':' && endsFlowKey rest) ||
        (isBlank cell.char && startsWithHash rest) then
      ([], cell :: rest)
    else
      let (text, after) := takeFlowPlain rest
      (cell.char :: text, after)

mutual

/-- Reads a node inside a flow collection. -/
def flowNode : Nat → List Cell → Except ParseError (Node × List Cell)
  | 0, cells => .error ⟨.exhausted, markOr ⟨0, 0⟩ cells⟩
  | fuel + 1, cells =>
    match skipItemGaps cells with
    | [] => .ok (.null ⟨0, 0⟩, [])
    | cell :: rest =>
      if cell.char = '[' then flowSequence fuel cell.mark [] rest
      else if cell.char = '{' then flowMapping fuel cell.mark [] rest
      else if cell.char = ']' || cell.char = '}' then .error ⟨.illegalFlowEnd, cell.mark⟩
      else if cell.char = '\'' || cell.char = '"' then scanQuoted cell rest
      else if isUnsupportedStart cell.char then .error ⟨.unsupportedFeature, cell.mark⟩
      else
        let (text, after) := takeFlowPlain (cell :: rest)
        .ok (flowPlainNode (text.reverse.dropWhile isBlank).reverse cell.mark, after)

def flowValue : Nat → List Cell → Except ParseError (Option Node × List Cell)
  | 0, cells => .error ⟨.exhausted, markOr ⟨0, 0⟩ cells⟩
  | fuel + 1, cells =>
    match skipItemGaps cells with
    | colon :: more =>
      if colon.char = ':' then
        match skipItemGaps more with
        | next :: _ =>
          if next.char = ',' || next.char = ']' || next.char = '}' then
            .ok (some (.null next.mark), more)
          else (flowNode fuel more).map fun (value, after) => (some value, after)
        | [] => .ok (some (.null colon.mark), [])
      else .ok (none, cells)
    | [] => .ok (none, cells)

def flowSequence : Nat → Mark → List Node → List Cell → Except ParseError (Node × List Cell)
  | 0, _, _, cells => .error ⟨.exhausted, markOr ⟨0, 0⟩ cells⟩
  | fuel + 1, opening, items, cells =>
    match skipItemGaps cells with
    | [] => .error ⟨.endOfSequenceFlowNotFound, opening⟩
    | cell :: rest =>
      if cell.char = ']' then .ok (.sequence items opening, rest)
      else do
        let (node, after) ← flowNode fuel (cell :: rest)
        let (value, after) ← flowValue fuel after
        let item := match value with
          | some value => Node.mapping [(node, value)] node.mark
          | none => node
        match skipItemGaps after with
        | [] => .error ⟨.endOfSequenceFlowNotFound, opening⟩
        | next :: more =>
          if next.char = ',' then flowSequence fuel opening (items ++ [item]) more
          else if next.char = ']' then .ok (.sequence (items ++ [item]) opening, more)
          else .error ⟨.endOfSequenceFlowNotFound, next.mark⟩

def flowMapping : Nat → Mark → List (Node × Node) → List Cell → Except ParseError (Node × List Cell)
  | 0, _, _, cells => .error ⟨.exhausted, markOr ⟨0, 0⟩ cells⟩
  | fuel + 1, opening, entries, cells =>
    match skipItemGaps cells with
    | [] => .error ⟨.endOfMapFlowNotFound, opening⟩
    | cell :: rest =>
      if cell.char = '}' then .ok (.mapping entries opening, rest)
      else do
        let (key, after) ← flowNode fuel (cell :: rest)
        let (value, after) ← flowValue fuel after
        let entry := (key, value.getD (.null (markOr key.mark after)))
        match skipItemGaps after with
        | [] => .error ⟨.endOfMapFlowNotFound, opening⟩
        | next :: more =>
          if next.char = ',' then flowMapping fuel opening (entries ++ [entry]) more
          else if next.char = '}' then .ok (.mapping (entries ++ [entry]) opening, more)
          else .error ⟨.endOfMapFlowNotFound, next.mark⟩

end

end ColumnCrypt.Yaml
