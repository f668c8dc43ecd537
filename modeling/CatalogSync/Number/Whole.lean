import CatalogSync.Failure
import CatalogSync.Text.Blank
import CatalogSync.Text.Digits
import CatalogSync.Text.Literal

/-!
# Reading whole numbers from text

`readWhole base s` reads `s` the way the language's integer constructor reads a text in a
given base:

1. every character from code point 127 on is replaced first: a blank by a space, a decimal
   digit of any script by its ASCII digit, and anything else ends the text there;
2. ASCII blanks around the number are dropped;
3. an optional sign comes first, then, in base 2, 8 or 16, an optional `0b`, `0o` or `0x`
   prefix followed by at most one underscore;
4. the digits follow, with single underscores allowed between two digits.

A text that does not read fails with `invalid literal for int() with base …`, quoting at
most 200 characters of the text's literal.
-/

namespace CatalogSync.Number

/-- The characters of a text as whole-number reading sees them: characters below code point
127 stay, other blanks become spaces, other decimal digits become ASCII digits, and the
first other character ends the text as `?`. -/
def asciiForm : List Char → List Char
  | [] => []
  | c :: rest =>
    if c.toNat < 127 then c :: asciiForm rest
    else if Text.isBlank c then ' ' :: asciiForm rest
    else
      match Text.decimalValue c with
      | some d => Char.ofNat (48 + d) :: asciiForm rest
      | none => ['?']

def isAsciiBlank (c : Char) : Bool := c = ' ' || ('\t' ≤ c && c ≤ '\r')

def digitWorth (c : Char) : Nat :=
  if c.isDigit then c.toNat - 48
  else if 'a' ≤ c ∧ c ≤ 'z' then c.toNat - 87
  else if 'A' ≤ c ∧ c ≤ 'Z' then c.toNat - 55
  else 36

/-- Reads digits of `base` with single underscores between them, after the value `acc`
read so far; `afterDigit` tells whether the last character taken was a digit. Gives the
value and the characters after the digits, or none when an underscore is misplaced. -/
def digitRun (base : Nat) (acc : Nat) (afterDigit : Bool) :
    List Char → Option (Nat × List Char)
  | [] => if afterDigit then some (acc, []) else none
  | c :: rest =>
    if digitWorth c < base then digitRun base (acc * base + digitWorth c) true rest
    else if c = '_' then
      if afterDigit then digitRun base acc false rest else none
    else if afterDigit then some (acc, c :: rest) else none

def dropPrefix (base : Nat) (cs : List Char) : List Char :=
  let marked := match base with
    | 2 => ['b', 'B']
    | 8 => ['o', 'O']
    | 16 => ['x', 'X']
    | _ => []
  match cs with
  | '0' :: x :: rest =>
    if marked.contains x then
      match rest with
      | '_' :: more => more
      | _ => rest
    else cs
  | _ => cs

def readWhole (base : Nat) (s : String) : Option Int := do
  let cs := (asciiForm s.toList).dropWhile isAsciiBlank
  let (negative, cs) := match cs with
    | '-' :: rest => (true, rest)
    | '+' :: rest => (false, rest)
    | _ => (false, cs)
  let (n, rest) ← digitRun base 0 false (dropPrefix base cs)
  if (rest.dropWhile isAsciiBlank).isEmpty then
    return if negative then -Int.ofNat n else Int.ofNat n
  else none

def wholeMessage (base : Nat) (s : String) : String :=
  "invalid literal for int() with base " ++ toString base ++ ": " ++
    String.ofList ((Text.literal s).toList.take 200)

def wholeFailure (base : Nat) (s : String) : Failure := .invalid (wholeMessage base s)

example : readWhole 10 " -1_000 " = some (-1000) ∧ readWhole 10 "1__0" = none ∧
    readWhole 16 "0x_ff" = some 255 := by decide

end CatalogSync.Number
