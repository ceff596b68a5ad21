import TypeMetadata.Toml.DateTime
import TypeMetadata.Toml.Number
import TypeMetadata.Toml.Tree

/-!
Reading the parts of a document: keys, values, and the statements that the lines consist of.
-/

namespace TypeMetadata.Toml

def readRun (isMember : Char → Bool) (text : List Char) : Option (Parsed (List Char) text) :=
  match text with
  | [] => none
  | c :: rest =>
    if isMember c then
      some ⟨c :: rest.takeWhile isMember, rest.dropWhile isMember,
        Nat.lt_succ_of_le (length_dropWhile_le isMember rest)⟩
    else none

def readChar (expected : Char) : (text : List Char) → Option (Parsed Unit text)
  | [] => none
  | c :: rest => if c = expected then some ⟨(), rest, Nat.lt_succ_self _⟩ else none

/-- How many keys a path may have, and how deep arrays and tables between braces may be nested. -/
def maxDepth : Nat := 80

/-! ### Keys -/

def isBareKeyChar (c : Char) : Bool :=
  c.isAlphanum || c == '-' || c == '_'

def readKey (text : List Char) : Option (Parsed String text) :=
  match readRun isBareKeyChar text with
  | some key => some (key.map String.ofList)
  | none => readQuotedLine text

def readKeys (text : List Char) : Option (Parsed (List String) text) := do
  let key ← readKey text
  have key_lt := key.rest_lt
  have blanks_le := length_skipBlanks_le key.rest
  match readChar '.' (skipBlanks key.rest) with
  | none => return ⟨[key.value], key.rest, key.rest_lt⟩
  | some dot =>
    have dot_lt := dot.rest_lt
    have next_le := length_skipBlanks_le dot.rest
    let keys ← readKeys (skipBlanks dot.rest)
    have keys_lt := keys.rest_lt
    return ⟨key.value :: keys.value, keys.rest, by omega⟩
termination_by text.length

def readKeyPath (text : List Char) : Option (Parsed KeyPath text) := do
  let keys ← readKeys text
  if maxDepth < keys.value.length then none
  let last ← keys.value.getLast?
  return ⟨⟨keys.value.dropLast, last⟩, keys.rest, keys.rest_lt⟩

/-! ### Values -/

/-- The characters of a value without quotes or brackets: all but those that separate the parts of
a document. -/
def isScalarChar (c : Char) : Bool :=
  !isBlank c && c != '\n' && c != '\r' && c != '#' && c != '=' && c != ',' &&
    c != '[' && c != ']' && c != '\x7b' && c != '\x7d'

def scalar? (spelling : List Char) : Option Value :=
  if spelling = "true".toList then some (.boolean true)
  else if spelling = "false".toList then some (.boolean false)
  else
    match integer? spelling with
    | some number => some (.integer number)
    | none =>
      if isFloat spelling then some (.float (String.ofList spelling))
      else if isDateTime spelling then some (.dateTime (String.ofList spelling))
      else if isUnreadableInteger spelling then some (.unreadable (String.ofList spelling))
      else none

/-- Whether a character can begin another word of a spelling. A quote would begin a text. -/
def isWordHead (c : Char) : Bool :=
  isScalarChar c && c != '"' && c != '\''

/-- The spelling of a value without quotes or brackets: words with blanks between them, since a day
and a time of day may be two words. -/
def readSpelling (text : List Char) : Option (Parsed (List Char) text) := do
  let word ← readRun isScalarChar text
  have word_lt := word.rest_lt
  have blanks_le := length_skipBlanks_le word.rest
  if (skipBlanks word.rest).head?.any isWordHead then
    let words ← readSpelling (skipBlanks word.rest)
    have words_lt := words.rest_lt
    return ⟨word.value ++ word.rest.takeWhile isBlank ++ words.value, words.rest, by omega⟩
  return word
termination_by text.length

def readPlain (text : List Char) : Option (Parsed Value text) :=
  match readQuoted text with
  | some quoted => some (quoted.map .string)
  | none => do
    let spelling ← readSpelling text
    let value ← scalar? spelling.value
    return ⟨value, spelling.rest, spelling.rest_lt⟩

def readAssignment (spacing : Spacing) (readValue : Reader Value) (text : List Char) :
    Option (Parsed (KeyPath × Value) text) := do
  let path ← readKeyPath text
  let sign ← readChar '=' (spacing.skip path.rest)
  let value ← readValue (spacing.skip sign.rest)
  return ⟨(path.value, value.value), value.rest, by
    have := path.rest_lt
    have := sign.rest_lt
    have := value.rest_lt
    have := spacing.length_skip_le path.rest
    have := spacing.length_skip_le sign.rest
    omega⟩

def inlineTable? (assignments : List (KeyPath × Value)) : Option Table := do
  let entries ← assignments.foldlM (fun entries (path, value) => Entries.assign? path value entries) []
  return tableOfEntries entries

/-- A value, in which arrays and tables between braces may be nested up to a depth. -/
def readValue : (depth : Nat) → Reader Value
  | depth + 1, '[' :: rest => do
    let elements ← readItems (readValue depth) ']' rest
    return (elements.map .array).behind '['
  | depth + 1, '\x7b' :: rest => do
    let assignments ← readItems (readAssignment .free (readValue depth)) '\x7d' rest
    let table ← inlineTable? assignments.value
    return ⟨.table table, assignments.rest, Nat.lt_succ_of_lt assignments.rest_lt⟩
  | _, text => readPlain text

/-! ### Statements -/

inductive Statement
  | table (path : KeyPath)
  /-- The header of an element of an array of tables. -/
  | element (path : KeyPath)
  | assignment (path : KeyPath) (value : Value)

def readHeader (text : List Char) : Option (Parsed KeyPath text) := do
  let path ← readKeyPath (skipBlanks text)
  let close ← readChar ']' (skipBlanks path.rest)
  return ⟨path.value, close.rest, by
    have := path.rest_lt
    have := close.rest_lt
    have := length_skipBlanks_le text
    have := length_skipBlanks_le path.rest
    omega⟩

def readStatement : Reader Statement
  | '[' :: '[' :: rest => do
    let header ← readHeader rest
    let close ← readChar ']' header.rest
    return ⟨.element header.value, close.rest, by
      have := header.rest_lt
      have := close.rest_lt
      simp only [List.length_cons]
      omega⟩
  | '[' :: rest => do
    let header ← readHeader rest
    return (header.map .table).behind '['
  | text => do
    let assignment ← readAssignment .line (readValue maxDepth) text
    return assignment.map fun (path, value) => .assignment path value

/-- The statements of a text. Each must end its line. -/
def readStatements (text : List Char) : Option (List Statement) :=
  if (skipGap text).isEmpty then some []
  else do
    let statement ← readStatement (skipGap text)
    have := statement.rest_lt
    have := length_skipGap_le text
    if isAtLineEnd statement.rest then
      let statements ← readStatements statement.rest
      return statement.value :: statements
    none
termination_by text.length

end TypeMetadata.Toml
