/-!
# Base64

`encode` writes bytes in the standard alphabet with `=` padding. `decode` reads such a text
leniently: characters outside the alphabet are skipped, and the first complete padding ends
the data. What remains must close its last group of four, else the text is refused, with a
message naming how it fails.
-/

namespace CatalogSync.Base64

def alphabet : List Char :=
  "ABCDEFGHIJKLMNOPQRSTUVWXYZabcdefghijklmnopqrstuvwxyz0123456789+/".toList

def digit (n : Nat) : Char := alphabet.getD n '='

def value? (c : Char) : Option Nat :=
  if 'A' ≤ c ∧ c ≤ 'Z' then some (c.toNat - 65)
  else if 'a' ≤ c ∧ c ≤ 'z' then some (c.toNat - 97 + 26)
  else if '0' ≤ c ∧ c ≤ '9' then some (c.toNat - 48 + 52)
  else if c = '+' then some 62
  else if c = '/' then some 63
  else none

def encodeBytes : List UInt8 → List Char
  | a :: b :: c :: rest =>
    let n := a.toNat * 65536 + b.toNat * 256 + c.toNat
    digit (n / 262144) :: digit (n / 4096 % 64) :: digit (n / 64 % 64) :: digit (n % 64) ::
      encodeBytes rest
  | [a, b] =>
    let n := a.toNat * 65536 + b.toNat * 256
    [digit (n / 262144), digit (n / 4096 % 64), digit (n / 64 % 64), '=']
  | [a] =>
    let n := a.toNat * 65536
    [digit (n / 262144), digit (n / 4096 % 64), '=', '=']
  | [] => []

/-- The base64 text of bytes. -/
def encode (bytes : List UInt8) : String := String.ofList (encodeBytes bytes)

/-- The state of reading: bytes so far (latest first), the position in the current group of
four, the bits carried to the next byte, and the pads seen. -/
structure Reading where
  out : List UInt8 := []
  quad : Nat := 0
  carry : Nat := 0
  pads : Nat := 0

def readChars : List Char → Reading → Reading
  | [], r => r
  | c :: rest, r =>
    if c = '=' then
      let pads := r.pads + 1
      if r.quad ≥ 2 ∧ r.quad + pads ≥ 4 then { r with pads, quad := 0 }
      else readChars rest { r with pads }
    else
      match value? c with
      | none => readChars rest r
      | some v =>
        match r.quad with
        | 0 => readChars rest { r with quad := 1, carry := v }
        | 1 =>
          let out := UInt8.ofNat (r.carry * 4 + v / 16) :: r.out
          readChars rest { r with quad := 2, carry := v % 16, out }
        | 2 =>
          let out := UInt8.ofNat (r.carry * 16 + v / 4) :: r.out
          readChars rest { r with quad := 3, carry := v % 4, out }
        | _ =>
          let out := UInt8.ofNat (r.carry * 64 + v) :: r.out
          readChars rest { r with quad := 0, carry := 0, out }

/-- The bytes of a base64 text, or why it is refused. -/
def decode (s : String) : Except String (List UInt8) :=
  let r := readChars s.toList {}
  if r.quad = 1 then
    .error ("Invalid base64-encoded string: number of data characters (" ++
      toString (r.out.length / 3 * 4 + 1) ++ ") cannot be 1 more than a multiple of 4")
  else if r.quad ≠ 0 then .error "Incorrect padding"
  else .ok r.out.reverse

example : encode "payload".toUTF8.toList = "cGF5bG9hZA==" := by decide +kernel

example : (decode "cGF5bG9hZA==").toOption = some "payload".toUTF8.toList := by decide +kernel

end CatalogSync.Base64
