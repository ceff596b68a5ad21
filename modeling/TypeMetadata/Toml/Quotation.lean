import TypeMetadata.Toml.Reader

/-!
Quoted texts: basic ones between double quotes, with escapes, and literal ones between single
quotes, without. Three quotes in a row open a text that may run over several lines.
-/

namespace TypeMetadata.Toml

def hexDigit? (c : Char) : Option Nat :=
  if '0' ≤ c && c ≤ '9' then some (c.toNat - '0'.toNat)
  else if 'a' ≤ c && c ≤ 'f' then some (c.toNat - 'a'.toNat + 10)
  else if 'A' ≤ c && c ≤ 'F' then some (c.toNat - 'A'.toNat + 10)
  else none

/-- The character whose code point the hexadecimal digits spell, if they are digits and the code
point is that of a character. -/
def charOfHex? (digits : List Char) : Option Char := do
  let values ← digits.mapM hexDigit?
  let code := values.foldl (fun sum digit => 16 * sum + digit) 0
  if code.isValidChar then some (Char.ofNat code) else none

def readEscape : Reader Char
  | 'b' :: rest => some ⟨'\x08', rest, by simp⟩
  | 't' :: rest => some ⟨'\t', rest, by simp⟩
  | 'n' :: rest => some ⟨'\n', rest, by simp⟩
  | 'f' :: rest => some ⟨'\x0c', rest, by simp⟩
  | 'r' :: rest => some ⟨'\r', rest, by simp⟩
  | 'e' :: rest => some ⟨'\x1b', rest, by simp⟩
  | '"' :: rest => some ⟨'"', rest, by simp⟩
  | '\\' :: rest => some ⟨'\\', rest, by simp⟩
  | 'x' :: a :: b :: rest => do
    let c ← charOfHex? [a, b]
    some ⟨c, rest, Nat.lt_add_of_pos_right (Nat.succ_pos 2)⟩
  | 'u' :: a :: b :: c :: d :: rest => do
    let c ← charOfHex? [a, b, c, d]
    some ⟨c, rest, Nat.lt_add_of_pos_right (Nat.succ_pos 4)⟩
  | 'U' :: a :: b :: c :: d :: e :: f :: g :: h :: rest => do
    let c ← charOfHex? [a, b, c, d, e, f, g, h]
    some ⟨c, rest, Nat.lt_add_of_pos_right (Nat.succ_pos 8)⟩
  | _ => none

def skipBlankLines : List Char → List Char
  | ' ' :: rest => skipBlankLines rest
  | '\t' :: rest => skipBlankLines rest
  | '\n' :: rest => skipBlankLines rest
  | '\r' :: '\n' :: rest => skipBlankLines rest
  | text => text

theorem length_skipBlankLines_le (text : List Char) :
    (skipBlankLines text).length ≤ text.length := by
  fun_induction skipBlankLines text with
  | case1 rest ih => exact Nat.le_succ_of_le ih
  | case2 rest ih => exact Nat.le_succ_of_le ih
  | case3 rest ih => exact Nat.le_succ_of_le ih
  | case4 rest ih => exact Nat.le_succ_of_le (Nat.le_succ_of_le ih)
  | case5 text => exact Nat.le_refl _

/-- The text that goes on behind a backslash at the end of a line: all blanks and line ends that
follow are passed over. -/
def readContinuation (text : List Char) : Option (Parsed Unit text) :=
  match h : lineEnd? (skipBlanks text) with
  | none => none
  | some rest =>
    some ⟨(), skipBlankLines rest, by
      have blanks_le := length_skipBlanks_le text
      have lines_le := length_skipBlankLines_le rest
      have rest_lt := length_lt_of_lineEnd? h
      omega⟩

/-! ### Texts on one line -/

def readBasic (text : List Char) : Option (Parsed (List Char) text) :=
  match text with
  | [] => none
  | '"' :: rest => some ⟨[], rest, by simp⟩
  | '\\' :: rest => do
    let escaped ← readEscape rest
    have escaped_lt := escaped.rest_lt
    let tail ← readBasic escaped.rest
    have tail_lt := tail.rest_lt
    return ⟨escaped.value :: tail.value, tail.rest, by simp only [List.length_cons]; omega⟩
  | c :: rest => do
    if isForbidden c then none
    let tail ← readBasic rest
    return ⟨c :: tail.value, tail.rest, Nat.lt_succ_of_lt tail.rest_lt⟩
termination_by text.length
decreasing_by
  all_goals try simp only [List.length_cons]
  all_goals omega

def readLiteral : (text : List Char) → Option (Parsed (List Char) text)
  | [] => none
  | '\'' :: rest => some ⟨[], rest, by simp⟩
  | c :: rest => do
    if isForbidden c then none
    let tail ← readLiteral rest
    return ⟨c :: tail.value, tail.rest, Nat.lt_succ_of_lt tail.rest_lt⟩

/-! ### Texts over several lines -/

/-- The end of a text over several lines: three quotes, before which up to two more belong to the
text. -/
def readClosing (quote : Char) (text : List Char) : Option (Parsed (List Char) text) :=
  let quotes := (text.takeWhile (· == quote)).length
  if h : quotes < 3 then none
  else
    let inside := min (quotes - 3) 2
    some ⟨List.replicate inside quote, text.drop (inside + 3), by
      have : quotes ≤ text.length := (List.takeWhile_prefix _).length_le
      simp only [List.length_drop]
      omega⟩

/-- A line end inside a text over several lines, which stands for itself. -/
def readLineEnd : Reader (List Char)
  | '\n' :: rest => some ⟨['\n'], rest, by simp⟩
  | '\r' :: '\n' :: rest => some ⟨['\r', '\n'], rest, Nat.lt_succ_of_lt (Nat.lt_succ_self _)⟩
  | _ => none

def readBasicLines (text : List Char) : Option (Parsed (List Char) text) :=
  match readClosing '"' text with
  | some closing => some closing
  | none =>
    match readLineEnd text with
    | some lineEnd => do
      have lineEnd_lt := lineEnd.rest_lt
      let tail ← readBasicLines lineEnd.rest
      have tail_lt := tail.rest_lt
      return ⟨lineEnd.value ++ tail.value, tail.rest, by omega⟩
    | none =>
      match text with
      | [] => none
      | '\\' :: rest =>
        match readContinuation rest with
        | some passed => do
          have passed_lt := passed.rest_lt
          let tail ← readBasicLines passed.rest
          have tail_lt := tail.rest_lt
          return ⟨tail.value, tail.rest, by simp only [List.length_cons]; omega⟩
        | none => do
          let escaped ← readEscape rest
          have escaped_lt := escaped.rest_lt
          let tail ← readBasicLines escaped.rest
          have tail_lt := tail.rest_lt
          return ⟨escaped.value :: tail.value, tail.rest, by simp only [List.length_cons]; omega⟩
      | c :: rest => do
        if isForbidden c then none
        let tail ← readBasicLines rest
        return ⟨c :: tail.value, tail.rest, Nat.lt_succ_of_lt tail.rest_lt⟩
termination_by text.length
decreasing_by
  all_goals try simp only [List.length_cons]
  all_goals omega

def readLiteralLines (text : List Char) : Option (Parsed (List Char) text) :=
  match readClosing '\'' text with
  | some closing => some closing
  | none =>
    match readLineEnd text with
    | some lineEnd => do
      have lineEnd_lt := lineEnd.rest_lt
      let tail ← readLiteralLines lineEnd.rest
      have tail_lt := tail.rest_lt
      return ⟨lineEnd.value ++ tail.value, tail.rest, by omega⟩
    | none =>
      match text with
      | [] => none
      | c :: rest => do
        if isForbidden c then none
        let tail ← readLiteralLines rest
        return ⟨c :: tail.value, tail.rest, Nat.lt_succ_of_lt tail.rest_lt⟩
termination_by text.length
decreasing_by
  all_goals try simp only [List.length_cons]
  all_goals omega

/-! ### Quoted texts of every kind -/

/-- The text behind opening quotes, less the line end that may follow them at once. -/
def skipFirstLineEnd (text : List Char) : List Char :=
  (lineEnd? text).getD text

theorem length_skipFirstLineEnd_le (text : List Char) :
    (skipFirstLineEnd text).length ≤ text.length := by
  cases h : lineEnd? text with
  | none => simp [skipFirstLineEnd, h]
  | some rest => simpa [skipFirstLineEnd, h] using Nat.le_of_lt (length_lt_of_lineEnd? h)

def readQuotedLine : Reader String
  | '"' :: rest => do
    let body ← readBasic rest
    return (body.map String.ofList).behind '"'
  | '\'' :: rest => do
    let body ← readLiteral rest
    return (body.map String.ofList).behind '\''
  | _ => none

def readQuoted : Reader String
  | '"' :: '"' :: '"' :: rest => do
    let body ← readBasicLines (skipFirstLineEnd rest)
    return (body.map String.ofList).weaken <| by
      have := length_skipFirstLineEnd_le rest
      simp only [List.length_cons]
      omega
  | '\'' :: '\'' :: '\'' :: rest => do
    let body ← readLiteralLines (skipFirstLineEnd rest)
    return (body.map String.ofList).weaken <| by
      have := length_skipFirstLineEnd_le rest
      simp only [List.length_cons]
      omega
  | text => readQuotedLine text

end TypeMetadata.Toml
