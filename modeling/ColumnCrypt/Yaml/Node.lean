/-!
YAML nodes and the faults of reading them.

A node is null, a scalar text, a sequence or a mapping whose entries keep document order and may
repeat keys. Every node carries the mark of its first character: a 0-based line and a 0-based
column counted in bytes. Reading faults carry the mark where reading stopped.
-/

namespace ColumnCrypt.Yaml

structure Mark where
  line : Nat
  column : Nat
deriving DecidableEq, Repr, Inhabited

/-- A YAML node. -/
inductive Node where
  | null (mark : Mark)
  | scalar (text : String) (mark : Mark)
  | sequence (items : List Node) (mark : Mark)
  | mapping (entries : List (Node × Node)) (mark : Mark)
deriving Repr, Inhabited

namespace Node

def mark : Node → Mark
  | null mark | scalar _ mark | sequence _ mark | mapping _ mark => mark

def isNull : Node → Bool
  | null _ => true
  | _ => false

def isScalar : Node → Bool
  | scalar .. => true
  | _ => false

def isSequence : Node → Bool
  | sequence .. => true
  | _ => false

def entries? : Node → Option (List (Node × Node))
  | mapping entries _ => some entries
  | _ => none

def isKey (key : Node) (text : String) : Bool :=
  match key with
  | scalar found _ => found = text
  | _ => false

/-- The value of the first entry of a mapping whose key is the scalar of a text; `none` when the
node is no mapping or has no such entry. -/
def get? (node : Node) (key : String) : Option Node :=
  match node with
  | mapping entries _ => (entries.find? (·.1.isKey key)).map (·.2)
  | _ => none

def keyText : Node → Except Mark String
  | null _ => .ok "null"
  | scalar text _ => .ok text
  | sequence _ mark | mapping _ mark => .error mark

end Node

inductive Problem where
  | illegalTab
  | illegalMapValue
  | illegalBlockEntry
  | endOfMapNotFound
  | endOfSequenceNotFound
  | endOfMapFlowNotFound
  | endOfSequenceFlowNotFound
  | illegalFlowEnd
  | endOfStringNotFound
  | unknownEscape (c : Char)
  | badHexDigit
  | invalidUnicode
  | unsupportedFeature
  | exhausted
deriving DecidableEq, Repr

def escapeShown (c : Char) : String :=
  if c = '\x00' then "" else if c.toNat < 0x80 then String.singleton c else "\uFFFD"

def Problem.message : Problem → String
  | .illegalTab => "illegal tab when looking for indentation"
  | .illegalMapValue => "illegal map value"
  | .illegalBlockEntry => "illegal block entry"
  | .endOfMapNotFound => "end of map not found"
  | .endOfSequenceNotFound => "end of sequence not found"
  | .endOfMapFlowNotFound => "end of map flow not found"
  | .endOfSequenceFlowNotFound => "end of sequence flow not found"
  | .illegalFlowEnd => "illegal flow end"
  | .endOfStringNotFound => "end of string not found"
  | .unknownEscape c => "unknown escape character: " ++ escapeShown c
  | .badHexDigit => "bad character found while scanning hex number"
  | .invalidUnicode => "invalid unicode"
  | .unsupportedFeature => "unsupported YAML feature"
  | .exhausted => "document nested too deeply"

/-- A reading fault at a mark. -/
structure ParseError where
  problem : Problem
  mark : Mark
deriving DecidableEq, Repr

end ColumnCrypt.Yaml
