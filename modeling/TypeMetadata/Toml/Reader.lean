/-!
Readers: functions that take something off the front of a text. What is left is always shorter, so
that a reader can be repeated until the text is used up.
-/

namespace TypeMetadata.Toml

/-- Something read off the front of a text, with what is left. -/
structure Parsed (α : Type) (text : List Char) where
  value : α
  rest : List Char
  rest_lt : rest.length < text.length

/-- A function that takes something off the front of a text, or refuses the text. -/
abbrev Reader (α : Type) := (text : List Char) → Option (Parsed α text)

/-- The same thing read with one more step before it. -/
def Parsed.weaken {α : Type} {text shorter : List Char} (parsed : Parsed α shorter)
    (h : shorter.length ≤ text.length) : Parsed α text :=
  ⟨parsed.value, parsed.rest, Nat.lt_of_lt_of_le parsed.rest_lt h⟩

/-- The same thing read behind one more character. -/
def Parsed.behind {α : Type} {text : List Char} (parsed : Parsed α text) (c : Char) :
    Parsed α (c :: text) :=
  parsed.weaken (Nat.le_succ _)

def Parsed.map {α β : Type} {text : List Char} (f : α → β) (parsed : Parsed α text) :
    Parsed β text :=
  ⟨f parsed.value, parsed.rest, parsed.rest_lt⟩

/-! ### Blanks, line ends and comments -/

/-- The characters that may stand between the parts of a line. -/
def isBlank (c : Char) : Bool :=
  c == ' ' || c == '\t'

/-- The characters that no comment and no text on one line may hold. -/
def isForbidden (c : Char) : Bool :=
  (c.toNat < 0x20 && c != '\t') || c == '\x7f'

def skipBlanks (text : List Char) : List Char :=
  text.dropWhile isBlank

def skipComment (text : List Char) : List Char :=
  text.dropWhile fun c => !isForbidden c

def lineEnd? : List Char → Option (List Char)
  | '\n' :: rest => some rest
  | '\r' :: '\n' :: rest => some rest
  | _ => none

theorem length_lt_of_lineEnd? {text rest : List Char} (h : lineEnd? text = some rest) :
    rest.length < text.length := by
  unfold lineEnd? at h
  split at h
  · cases h
    exact Nat.lt_succ_self _
  · cases h
    exact Nat.lt_succ_of_lt (Nat.lt_succ_self _)
  · cases h

theorem length_dropWhile_le {α : Type} (p : α → Bool) (xs : List α) :
    (xs.dropWhile p).length ≤ xs.length :=
  (List.dropWhile_suffix p).length_le

/-- The text after all blanks, line ends and comments at its front. A comment that holds a
forbidden character ends before it, and there nothing else can begin. -/
def skipGap (text : List Char) : List Char :=
  match text with
  | ' ' :: rest => skipGap rest
  | '\t' :: rest => skipGap rest
  | '\n' :: rest => skipGap rest
  | '\r' :: '\n' :: rest => skipGap rest
  | '#' :: rest => skipGap (skipComment rest)
  | text => text
termination_by text.length
decreasing_by
  all_goals simp only [List.length_cons]
  all_goals try omega
  exact Nat.lt_succ_of_le (length_dropWhile_le _ rest)

theorem length_skipBlanks_le (text : List Char) : (skipBlanks text).length ≤ text.length :=
  length_dropWhile_le isBlank text

theorem length_skipGap_le (text : List Char) : (skipGap text).length ≤ text.length := by
  fun_induction skipGap text with
  | case1 rest ih => exact Nat.le_succ_of_le ih
  | case2 rest ih => exact Nat.le_succ_of_le ih
  | case3 rest ih => exact Nat.le_succ_of_le ih
  | case4 rest ih => exact Nat.le_succ_of_le (Nat.le_succ_of_le ih)
  | case5 rest ih =>
    exact Nat.le_succ_of_le (Nat.le_trans ih (length_dropWhile_le _ rest))
  | case6 text => exact Nat.le_refl _

/-- What may stand between the parts of a statement. -/
inductive Spacing
  /-- Blanks only, so that the parts stay on one line. -/
  | line
  /-- Blanks, line ends and comments, as is usual between brackets. -/
  | free

namespace Spacing

def skip : Spacing → List Char → List Char
  | .line => skipBlanks
  | .free => skipGap

theorem length_skip_le (spacing : Spacing) (text : List Char) :
    (spacing.skip text).length ≤ text.length := by
  cases spacing with
  | line => exact length_skipBlanks_le text
  | free => exact length_skipGap_le text

end Spacing

def isAtLineEnd (text : List Char) : Bool :=
  match skipBlanks text with
  | [] => true
  | '#' :: _ => true
  | rest => (lineEnd? rest).isSome

/-! ### Lists between brackets -/

def readSymbol (text : List Char) : Option (Parsed Char text) :=
  match h : skipGap text with
  | [] => none
  | c :: rest =>
    some ⟨c, rest, by
      have := length_skipGap_le text
      rw [h, List.length_cons] at this
      exact this⟩

/-- Items up to a closing character, with commas between them, after which another one may follow.
Blanks, line ends and comments may stand around each item. -/
def readItems {α : Type} (item : Reader α) (close : Char) (text : List Char) :
    Option (Parsed (List α) text) := do
  let start ← readSymbol text
  if start.value = close then
    return ⟨[], start.rest, start.rest_lt⟩
  let first ← item (skipGap text)
  have first_lt := first.rest_lt
  have start_le := length_skipGap_le text
  let next ← readSymbol first.rest
  have next_lt := next.rest_lt
  if next.value = close then
    return ⟨[first.value], next.rest, by omega⟩
  if next.value = ',' then
    let others ← readItems item close next.rest
    have others_lt := others.rest_lt
    return ⟨first.value :: others.value, others.rest, by omega⟩
  none
termination_by text.length

end TypeMetadata.Toml
