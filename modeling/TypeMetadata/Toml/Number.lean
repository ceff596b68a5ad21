import TypeMetadata.Toml.Quotation

/-!
The spellings of numbers.
-/

namespace TypeMetadata.Toml

/-- Digits in a row, where a single underscore may stand between two of them. -/
def isDigitRun (isDigit : Char → Bool) : List Char → Bool
  | [] => false
  | [c] => isDigit c
  | c :: '_' :: rest => isDigit c && isDigitRun isDigit rest
  | c :: rest => isDigit c && isDigitRun isDigit rest

/-- Decimal digits that do not begin with a zero unless it stands alone. -/
def isDecimal (spelling : List Char) : Bool :=
  isDigitRun Char.isDigit spelling && (spelling.head? != some '0' || spelling == ['0'])

/-- The number that digits spell in a base. Underscores do not count. -/
def numberOfDigits (base : Nat) (digits : List Char) : Nat :=
  (digits.filterMap hexDigit?).foldl (fun sum digit => base * sum + digit) 0

def withoutSign : List Char → List Char
  | '+' :: rest => rest
  | '-' :: rest => rest
  | spelling => spelling

/-- The whole number of a spelling: digits behind a base mark and without a sign, or decimal digits
with or without one. -/
def integer? (spelling : List Char) : Option Int :=
  match spelling with
  | '0' :: 'x' :: digits =>
    if isDigitRun (fun c => (hexDigit? c).isSome) digits then
      some (numberOfDigits 16 digits)
    else none
  | '0' :: 'o' :: digits =>
    if isDigitRun (fun c => '0' ≤ c && c ≤ '7') digits then some (numberOfDigits 8 digits)
    else none
  | '0' :: 'b' :: digits =>
    if isDigitRun (fun c => c == '0' || c == '1') digits then some (numberOfDigits 2 digits)
    else none
  | '-' :: digits =>
    if isDecimal digits then some (-(numberOfDigits 10 digits : Int)) else none
  | spelling =>
    let digits := withoutSign spelling
    if isDecimal digits then some (numberOfDigits 10 digits) else none

/-- Whether each underscore has a hexadecimal digit on either side. -/
def hasFencedUnderscores (text : List Char) : Bool :=
  let isHexDigit := fun c => (hexDigit? c).isSome
  text.head? != some '_' && text.getLast? != some '_' &&
    (text.zip text.tail).all fun (a, b) =>
      (a != '_' || isHexDigit b) && (b != '_' || isHexDigit a)

/-- Whether a spelling begins like a whole number without spelling one: a base mark without digits,
or decimal digits and an underscore, behind which anything may stand that is neither a mark of a
float nor a space, as long as the underscores are fenced. -/
def isUnreadableInteger (spelling : List Char) : Bool :=
  let unsigned := withoutSign spelling
  spelling == ['0', 'x'] || spelling == ['0', 'o'] || spelling == ['0', 'b'] ||
    (unsigned.head?.any (fun c => '1' ≤ c && c ≤ '9') &&
      (unsigned.dropWhile Char.isDigit).head? == some '_' &&
      unsigned.all (fun c => c != '.' && c != 'e' && c != 'E' && c != ' ') &&
      hasFencedUnderscores unsigned)

/-! ### Floats -/

def isSpecialFloat (unsigned : List Char) : Bool :=
  unsigned == ['i', 'n', 'f'] || unsigned == ['n', 'a', 'n']

/-- The parts of the spelling of a float: the digits before the point, the point and those after it,
and the exponent with its mark. The last two may be empty. -/
structure FloatParts where
  whole : List Char
  fraction : List Char
  exponent : List Char

def FloatParts.ofSpelling (unsigned : List Char) : FloatParts :=
  let mantissa := unsigned.takeWhile fun c => c != 'e' && c != 'E'
  { whole := mantissa.takeWhile (· != '.')
    fraction := mantissa.dropWhile (· != '.')
    exponent := unsigned.dropWhile fun c => c != 'e' && c != 'E' }

/-- Whether a spelling is that of a float: the name of a special value, or decimal digits followed
by a fraction, an exponent or both. -/
def isFloat (spelling : List Char) : Bool :=
  let unsigned := withoutSign spelling
  let parts := FloatParts.ofSpelling unsigned
  isSpecialFloat unsigned ||
    (isDecimal parts.whole &&
      (parts.fraction.isEmpty || isDigitRun Char.isDigit parts.fraction.tail) &&
      (parts.exponent.isEmpty || isDigitRun Char.isDigit (withoutSign parts.exponent.tail)) &&
      !(parts.fraction.isEmpty && parts.exponent.isEmpty))

/-- The least number that is too large for a float of 64 bits: halfway between the largest of them
and the power of two above it. -/
def floatLimit : Nat := Nat.pow 2 1024 - Nat.pow 2 970

/-- Whether digits with a decimal exponent make a number that is not below the limit of floats. The
limit has 309 digits. A number whose digits all stand behind the point is below one. -/
def reachesFloatLimit (digits : List Char) : (exponent : Int) → Bool
  | .ofNat places =>
    let number := numberOfDigits 10 digits
    number != 0 && (309 ≤ places || floatLimit ≤ number * Nat.pow 10 places)
  | .negSucc places =>
    places < digits.length && floatLimit * Nat.pow 10 (places + 1) ≤ numberOfDigits 10 digits

/-- Whether the number that the spelling of a float gives is too large for a float of 64 bits. The
special floats are as large as they say. -/
def isTooLargeFloat (spelling : List Char) : Bool :=
  let unsigned := withoutSign spelling
  let parts := FloatParts.ofSpelling unsigned
  let fraction := parts.fraction.filter Char.isDigit
  let written : Int :=
    match parts.exponent with
    | _ :: '-' :: digits => -(numberOfDigits 10 digits : Int)
    | exponent => numberOfDigits 10 (withoutSign exponent.tail)
  !isSpecialFloat unsigned &&
    reachesFloatLimit (parts.whole ++ fraction) (written - fraction.length)

end TypeMetadata.Toml
