import ColumnCrypt.Yaml.Flow

/-!
Block structure of the YAML subset, and reading a document.

A node whose first line is an entry `- ` is a block sequence at its indentation, one whose first
line starts with a key a block mapping. A key is a quoted scalar or a flow collection closing on
its line, or a plain text up to the first `:` followed by a blank or the line end; it is followed
by `:` and a space or the line end, and keys may repeat. An empty value stands for the block
below when that is indented more than the key, or is an entry sequence at the key's column, and
is null otherwise. In a mapping at indentation `I` a line indented more, or at `I` without a key,
is a fault; content left after the root node is a fault. The lines after a flow collection are
read again from the text, up to the next document boundary.
-/

namespace ColumnCrypt.Yaml

def startsWithSpace : List Cell → Bool
  | cell :: _ => cell.char = ' '
  | [] => false

def isEntry : List Cell → Bool
  | [dash] => dash.char = '-'
  | dash :: rest => dash.char = '-' && startsWithSpace rest
  | [] => false

def dropSpaces (cells : List Cell) : List Cell :=
  cells.dropWhile (·.char = ' ')

def isKeyForbiddenStart (c : Char) : Bool :=
  c = '?' || c = ':' || c = ',' || c = ']' || c = '}' || c = '#' || isUnsupportedStart c

def endsKey (cells : List Cell) : Bool :=
  cells.isEmpty || startsWithSpace cells

def plainKeySplit : List Cell → Option (List Cell × List Cell)
  | [] => none
  | cell :: rest =>
    if cell.char = ':' && endsKey rest then some ([], rest)
    else (plainKeySplit rest).map fun (key, after) => (cell :: key, after)

def closingCount? : List Cell → Nat → Option Char → Option Nat
  | [], _, _ => none
  | cell :: rest, depth, quote =>
    match quote with
    | some q =>
      if q = '"' && cell.char = '\\' then
        match rest with
        | _ :: more => (closingCount? more depth quote).map (· + 2)
        | [] => none
      else (closingCount? rest depth (if cell.char = q then none else some q)).map (· + 1)
    | none =>
      if isQuote cell.char then (closingCount? rest depth (some cell.char)).map (· + 1)
      else if cell.char = '[' || cell.char = '{' then
        (closingCount? rest (depth + 1) none).map (· + 1)
      else if cell.char = ']' || cell.char = '}' then
        if depth = 0 then some 1 else (closingCount? rest (depth - 1) none).map (· + 1)
      else (closingCount? rest depth none).map (· + 1)

def Line.endMark (line : Line) : Mark :=
  ⟨line.number, line.cells.foldl (fun column cell => max column (cell.mark.column +
    cell.char.utf8Size)) line.column⟩

def plainCells (cells : List Cell) (mark : Mark) : Node :=
  plainNode ((cells.map (·.char)).reverse.dropWhile isBlank).reverse mark

def plainKey (cells : List Cell) (mark : Mark) : Node :=
  plainCells (cells.dropWhile (isBlank ·.char)) mark

structure Source where
  raw : List RawLine
  content : List Line

def afterClosingQuote? (quote : Char) : List Cell → Option (List Cell)
  | [] => none
  | cell :: rest =>
    if quote = '"' && cell.char = '\\' then
      match rest with
      | _ :: more => afterClosingQuote? quote more
      | [] => none
    else if cell.char = quote then
      match rest with
      | next :: more => if quote = '\'' && next.char = '\'' then afterClosingQuote? quote more
                        else some rest
      | [] => some []
    else afterClosingQuote? quote rest

def afterKeyColon? (cells : List Cell) : Option (List Cell) :=
  match dropSpaces cells with
  | colon :: after => if colon.char = ':' && endsKey after then some (dropSpaces after) else none
  | [] => none

def quotedFromBlank (source : Source) (line : Line) (first : Cell) (text : List Cell) :
    Except ParseError Node := do
  let (node, after) ← scanQuoted first ((streamFrom source.raw first.mark).drop 1)
  let closing := markOr line.endMark after
  if closing.column = text.foldl (fun column cell => column + cell.char.utf8Size) first.mark.column
  then return node
  else throw ⟨.illegalMapValue, closing⟩

def blankLedKey (fuel : Nat) (source : Source) (line : Line) (first : Cell) (key : List Cell) :
    Except ParseError Node :=
  let text := ((key.dropWhile (isBlank ·.char)).reverse.dropWhile (isBlank ·.char)).reverse
  match text with
  | [] => .ok (plainKey key first.mark)
  | lead :: _ =>
    if isUnsupportedStart lead.char then .error ⟨.unsupportedFeature, first.mark⟩
    else if lead.char = ']' || lead.char = '}' then .error ⟨.illegalFlowEnd, first.mark⟩
    else if isQuote lead.char then quotedFromBlank source line first text
    else if lead.char = '[' || lead.char = '{' then do
      let (node, _) ← flowNode fuel (streamFrom source.raw first.mark)
      return node
    else .ok (plainKey key first.mark)

def lineKey (fuel : Nat) (source : Source) (line : Line) :
    Except ParseError (Option (Node × List Cell)) :=
  match line.cells with
  | [] => .ok none
  | cell :: rest =>
    if isQuote cell.char then
      match (afterClosingQuote? cell.char rest).bind afterKeyColon? with
      | some value => do
        let (node, _) ← scanQuoted cell ((streamFrom source.raw cell.mark).drop 1)
        return some (node, value)
      | none => .ok none
    else if cell.char = '[' || cell.char = '{' then
      match closingCount? rest 0 none with
      | some count =>
        match afterKeyColon? (rest.drop count) with
        | some value => do
          let (node, _) ← flowNode fuel (streamFrom source.raw cell.mark)
          return some (node, value)
        | none => .ok none
      | none => .ok none
    else if isKeyForbiddenStart cell.char then .ok none
    else
      match plainKeySplit line.cells with
      | none => .ok none
      | some (key, after) =>
        if isBlank cell.char then do
          let node ← blankLedKey fuel source line cell key
          return some (node, dropSpaces after)
        else .ok (some (plainKey key cell.mark, dropSpaces after))

def checkAfterFlow : List Cell → Bool → Except ParseError Unit
  | [], _ => .ok ()
  | cell :: rest, spaced =>
    if cell.char = '\n' then .ok ()
    else if isBlank cell.char then checkAfterFlow rest true
    else if cell.char = '\r' then checkAfterFlow rest false
    else if cell.char = '#' && spaced then .ok ()
    else .error ⟨.illegalMapValue, cell.mark⟩

def linesAfterFlow (after : List Cell) (content : List Line) : List Line :=
  match after with
  | [] => []
  | first :: _ => untilBoundary (content.filter (·.number > first.mark.line))

def inlineValue (fuel : Nat) (source : Source) (line : Line) (cells : List Cell)
    (following : List Line) : Except ParseError (Node × List Line) := do
  match cells with
  | [] => return (.null ⟨0, 0⟩, following)
  | cell :: rest =>
    if isEntry cells then throw ⟨.illegalBlockEntry, cell.mark⟩
    else if isUnsupportedStart cell.char then throw ⟨.unsupportedFeature, cell.mark⟩
    else if cell.char = ']' || cell.char = '}' then throw ⟨.illegalFlowEnd, cell.mark⟩
    else if cell.char = '[' || cell.char = '{' then
      let (node, after) ← flowNode fuel (streamFrom source.raw cell.mark)
      checkAfterFlow after false
      return (node, linesAfterFlow after source.content)
    else if isQuote cell.char then
      let (node, after) ← scanQuoted cell ((streamFrom source.raw cell.mark).drop 1)
      let closing := markOr (line.endMark) after
      match rest.dropWhile (·.mark.column < closing.column) with
      | extra :: _ => throw ⟨.illegalMapValue, extra.mark⟩
      | [] => return (node, following)
    else if !isKeyForbiddenStart cell.char && (plainKeySplit cells).isSome then
      throw ⟨.illegalMapValue, cell.mark⟩
    else return (plainCells cells cell.mark, following)

def Line.mark (line : Line) : Mark :=
  ⟨line.number, line.column⟩

mutual

/-- Reads the block node that starts at the first line. -/
def blockNode : Nat → Source → List Line → Except ParseError (Node × List Line)
  | 0, _, lines => .error ⟨.exhausted, (lines.head?.map Line.mark).getD ⟨0, 0⟩⟩
  | fuel + 1, source, lines =>
    match lines with
    | [] => .ok (.null ⟨0, 0⟩, [])
    | line :: rest =>
      if isEntry line.cells then blockSequence fuel source line.column line.mark [] lines
      else do
        match ← lineKey fuel source line with
        | some _ => blockMapping fuel source line.column line.mark [] lines
        | none => inlineValue fuel source line line.cells rest

def blockSequence : Nat → Source → Nat → Mark → List Node → List Line →
    Except ParseError (Node × List Line)
  | 0, _, _, _, _, lines => .error ⟨.exhausted, (lines.head?.map Line.mark).getD ⟨0, 0⟩⟩
  | fuel + 1, source, indent, mark, items, lines =>
    match lines with
    | [] => .ok (.sequence items mark, [])
    | line :: rest =>
      if line.column < indent then .ok (.sequence items mark, lines)
      else if indent < line.column then .error ⟨.endOfSequenceNotFound, line.mark⟩
      else if !isEntry line.cells then .ok (.sequence items mark, lines)
      else
        match dropSpaces (line.cells.drop 1) with
        | [] =>
          match rest with
          | next :: _ =>
            if indent < next.column then do
              let (node, after) ← blockNode fuel source rest
              blockSequence fuel source indent mark (items ++ [node]) after
            else blockSequence fuel source indent mark (items ++ [.null line.mark]) rest
          | [] => .ok (.sequence (items ++ [.null line.mark]) mark, [])
        | first :: more => do
          let (node, after) ←
            blockNode fuel source (⟨line.number, first.mark.column, first :: more⟩ :: rest)
          blockSequence fuel source indent mark (items ++ [node]) after

def blockMapping : Nat → Source → Nat → Mark → List (Node × Node) → List Line →
    Except ParseError (Node × List Line)
  | 0, _, _, _, _, lines => .error ⟨.exhausted, (lines.head?.map Line.mark).getD ⟨0, 0⟩⟩
  | fuel + 1, source, indent, mark, entries, lines =>
    match lines with
    | [] => .ok (.mapping entries mark, [])
    | line :: rest =>
      if line.column < indent then .ok (.mapping entries mark, lines)
      else if indent < line.column then .error ⟨.endOfMapNotFound, line.mark⟩
      else do
        match ← lineKey fuel source line with
        | none => throw ⟨.endOfMapNotFound, line.mark⟩
        | some (key, []) =>
          match rest with
          | next :: _ =>
            if indent < next.column then do
              let (value, after) ← blockNode fuel source rest
              blockMapping fuel source indent mark (entries ++ [(key, value)]) after
            else if next.column = indent && isEntry next.cells then do
              let (value, after) ← blockSequence fuel source indent next.mark [] rest
              blockMapping fuel source indent mark (entries ++ [(key, value)]) after
            else blockMapping fuel source indent mark (entries ++ [(key, .null key.mark)]) rest
          | [] => .ok (.mapping (entries ++ [(key, .null key.mark)]) mark, [])
        | some (key, value :: more) => do
          let (node, after) ← inlineValue fuel source line (value :: more) rest
          blockMapping fuel source indent mark (entries ++ [(key, node)]) after

end

/-- Reads the first document of a text; a document without content is null. -/
def parse (text : String) : Except ParseError Node := do
  let raw := rawLines text
  let content ← contentLines raw
  match documentOf content with
  | [] => return .null ⟨0, 0⟩
  | lines =>
    let (node, rest) ← blockNode (8 * (text.length + raw.length + 4)) ⟨raw, content⟩ lines
    match rest with
    | [] => return node
    | line :: _ =>
      throw ⟨if node.isSequence then .endOfSequenceNotFound else .endOfMapNotFound, line.mark⟩

end ColumnCrypt.Yaml
