/-!
The spellings of points in time: days, times of day, and both together with or without an offset.
-/

namespace TypeMetadata.Toml

def twoDigits? : List Char → Option (Nat × List Char)
  | a :: b :: rest =>
    if a.isDigit && b.isDigit then
      some (10 * (a.toNat - '0'.toNat) + (b.toNat - '0'.toNat), rest)
    else none
  | _ => none

def daysOfMonth (year month : Nat) : Nat :=
  if month == 2 then
    if year % 4 == 0 && (year % 100 != 0 || year % 400 == 0) then 29 else 28
  else if month == 4 || month == 6 || month == 9 || month == 11 then 30
  else 31

def skipDay? (text : List Char) : Option (List Char) := do
  let (century, rest) ← twoDigits? text
  let (yearOfCentury, rest) ← twoDigits? rest
  let '-' :: rest := rest | none
  let (month, rest) ← twoDigits? rest
  let '-' :: rest := rest | none
  let (day, rest) ← twoDigits? rest
  let year := 100 * century + yearOfCentury
  if 1 ≤ month && month ≤ 12 && 1 ≤ day && day ≤ daysOfMonth year month then some rest else none

def skipFraction? : List Char → Option (List Char)
  | '.' :: rest => if (rest.head?.any Char.isDigit) then some (rest.dropWhile Char.isDigit) else none
  | text => some text

/-- The text after a time of day. The seconds may be left out, and may be sixty for the sake of
leap seconds. -/
def skipTime? (text : List Char) : Option (List Char) := do
  let (hour, rest) ← twoDigits? text
  let ':' :: rest := rest | none
  let (minute, rest) ← twoDigits? rest
  if hour ≤ 23 && minute ≤ 59 then
    match rest with
    | ':' :: rest =>
      let (second, rest) ← twoDigits? rest
      if second ≤ 60 then skipFraction? rest else none
    | rest => some rest
  else none

def isOffset (text : List Char) : Bool :=
  match text with
  | [] => true
  | ['Z'] | ['z'] => true
  | sign :: rest =>
    (sign == '+' || sign == '-') &&
      match twoDigits? rest with
      | some (hour, ':' :: rest) =>
        match twoDigits? rest with
        | some (minute, []) => hour ≤ 23 && minute ≤ 59
        | _ => false
      | _ => false

/-- Whether a text is a day, a time of day, or both, in which case an offset may follow. -/
def isDateTime (spelling : List Char) : Bool :=
  match skipDay? spelling with
  | some [] => true
  | some (mark :: rest) =>
    (mark == 'T' || mark == 't' || mark == ' ') && (skipTime? rest).any isOffset
  | none => skipTime? spelling == some []

end TypeMetadata.Toml
