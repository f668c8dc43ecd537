import CatalogSync.Failure
import CatalogSync.Text.Literal

/-!
# Decoding bytes into text

`decodeUtf8`, `decodeUtf16` and `decodeUtf32` read bytes as text in one of the Unicode
encodings. They stop at the first malformed stretch and report it as the codecs of the
standard library do: the encoding's name, the offending byte or range of positions, and
the reason.

* UTF-8 refuses overlong forms, surrogates and code points above `0x10FFFF`. A sequence
  broken by a byte that cannot continue it is reported from its first byte up to the last
  byte that could; a sequence cut off by the end of the bytes is reported to the end.
* UTF-16 refuses a low surrogate that no high surrogate precedes, and a high surrogate that
  no low surrogate follows; an odd last byte is truncated data.
* UTF-32 refuses surrogates and code points above `0x10FFFF`; one to three last bytes are
  truncated data.

`decodeJsonBytes` is how a JSON reader given bytes picks the encoding: a byte-order mark
names it, and otherwise the zero bytes among the first four tell the width and order in
which an ASCII character is written.
-/

namespace CatalogSync.Text

/-- A malformed stretch of bytes, from position `start` up to but excluding `stop`. -/
structure DecodeError where
  encoding : String
  start : Nat
  stop : Nat
  /-- The first byte of the stretch. -/
  byte : UInt8
  reason : String

def DecodeError.message (e : DecodeError) : String :=
  if e.stop == e.start + 1 then
    "'" ++ e.encoding ++ "' codec can't decode byte 0x" ++ hex 2 e.byte.toNat ++
      " in position " ++ toString e.start ++ ": " ++ e.reason
  else
    "'" ++ e.encoding ++ "' codec can't decode bytes in position " ++ toString e.start ++
      "-" ++ toString (e.stop - 1) ++ ": " ++ e.reason

def DecodeError.failure (e : DecodeError) : Failure := .undecodable e.message

def isContinuation (b : UInt8) : Bool := b.toNat / 64 == 2

def payload (b : UInt8) : Nat := b.toNat % 64

def utf8Chars (pos : Nat) (acc : Array Char) : List UInt8 → Except DecodeError (Array Char)
  | [] => .ok acc
  | b :: rest =>
    let fail (length : Nat) (reason : String) : Except DecodeError (Array Char) :=
      .error { encoding := "utf-8", start := pos, stop := pos + length, byte := b, reason }
    let broken (length : Nat) := fail length "invalid continuation byte"
    let cut := fail (rest.length + 1) "unexpected end of data"
    let n := b.toNat
    if n < 0x80 then utf8Chars (pos + 1) (acc.push (Char.ofNat n)) rest
    else if n < 0xC2 then fail 1 "invalid start byte"
    else if n < 0xE0 then
      match rest with
      | [] => cut
      | c :: rest' =>
        if isContinuation c then
          utf8Chars (pos + 2) (acc.push (Char.ofNat ((n % 32) * 64 + payload c))) rest'
        else broken 1
    else if n < 0xF0 then
      let wrongSecond (c : UInt8) : Bool :=
        !isContinuation c || (n == 0xE0 && c.toNat < 0xA0) || (n == 0xED && c.toNat ≥ 0xA0)
      match rest with
      | [] => cut
      | [c] => if wrongSecond c then broken 1 else cut
      | c :: d :: rest' =>
        if wrongSecond c then broken 1
        else if !isContinuation d then broken 2
        else
          utf8Chars (pos + 3)
            (acc.push (Char.ofNat ((n % 16) * 4096 + payload c * 64 + payload d))) rest'
    else if n < 0xF5 then
      let wrongSecond (c : UInt8) : Bool :=
        !isContinuation c || (n == 0xF0 && c.toNat < 0x90) || (n == 0xF4 && c.toNat ≥ 0x90)
      match rest with
      | [] => cut
      | [c] => if wrongSecond c then broken 1 else cut
      | [c, d] =>
        if wrongSecond c then broken 1 else if !isContinuation d then broken 2 else cut
      | c :: d :: e :: rest' =>
        if wrongSecond c then broken 1
        else if !isContinuation d then broken 2
        else if !isContinuation e then broken 3
        else
          utf8Chars (pos + 4)
            (acc.push (Char.ofNat
              ((n % 8) * 262144 + payload c * 4096 + payload d * 64 + payload e))) rest'
    else fail 1 "invalid start byte"

/-- UTF-8 bytes as text. -/
def decodeUtf8 (bytes : List UInt8) : Except DecodeError String :=
  (fun cs => String.ofList cs.toList) <$> utf8Chars 0 #[] bytes

def unit16 (bigEndian : Bool) (a b : UInt8) : Nat :=
  if bigEndian then a.toNat * 256 + b.toNat else b.toNat * 256 + a.toNat

def utf16Chars (bigEndian : Bool) (encoding : String) (pos : Nat) (acc : Array Char) :
    List UInt8 → Except DecodeError (Array Char)
  | [] => .ok acc
  | [b] =>
    .error { encoding, start := pos, stop := pos + 1, byte := b, reason := "truncated data" }
  | a :: b :: rest =>
    let fail (length : Nat) (reason : String) : Except DecodeError (Array Char) :=
      .error { encoding, start := pos, stop := pos + length, byte := a, reason }
    let u := unit16 bigEndian a b
    if u < 0xD800 || u > 0xDFFF then
      utf16Chars bigEndian encoding (pos + 2) (acc.push (Char.ofNat u)) rest
    else if u ≥ 0xDC00 then fail 2 "illegal encoding"
    else
      match rest with
      | c :: d :: rest' =>
        let v := unit16 bigEndian c d
        if 0xDC00 ≤ v && v ≤ 0xDFFF then
          utf16Chars bigEndian encoding (pos + 4)
            (acc.push (Char.ofNat (0x10000 + (u - 0xD800) * 1024 + (v - 0xDC00)))) rest'
        else fail 2 "illegal UTF-16 surrogate"
      | _ => fail (rest.length + 2) "unexpected end of data"

def orderedName (width : String) (bigEndian : Bool) : String :=
  "utf-" ++ width ++ (if bigEndian then "-be" else "-le")

def decodeUtf16At (bigEndian : Bool) (pos : Nat) (bytes : List UInt8) :
    Except DecodeError String :=
  (fun cs => String.ofList cs.toList) <$>
    utf16Chars bigEndian (orderedName "16" bigEndian) pos #[] bytes

/-- UTF-16 bytes as text; a byte-order mark sets the order, little-endian otherwise. -/
def decodeUtf16 (bytes : List UInt8) : Except DecodeError String :=
  match bytes with
  | 0xFF :: 0xFE :: rest => decodeUtf16At false 2 rest
  | 0xFE :: 0xFF :: rest => decodeUtf16At true 2 rest
  | _ => decodeUtf16At false 0 bytes

def utf32Chars (bigEndian : Bool) (encoding : String) (pos : Nat) (acc : Array Char) :
    List UInt8 → Except DecodeError (Array Char)
  | a :: b :: c :: d :: rest =>
    let fail (reason : String) : Except DecodeError (Array Char) :=
      .error { encoding, start := pos, stop := pos + 4, byte := a, reason }
    let cp := if bigEndian then ((a.toNat * 256 + b.toNat) * 256 + c.toNat) * 256 + d.toNat
      else ((d.toNat * 256 + c.toNat) * 256 + b.toNat) * 256 + a.toNat
    if 0xD800 ≤ cp && cp < 0xE000 then
      fail "code point in surrogate code point range(0xd800, 0xe000)"
    else if cp > 0x10FFFF then fail "code point not in range(0x110000)"
    else utf32Chars bigEndian encoding (pos + 4) (acc.push (Char.ofNat cp)) rest
  | [] => .ok acc
  | b :: rest =>
    .error { encoding, start := pos, stop := pos + rest.length + 1, byte := b,
             reason := "truncated data" }

def decodeUtf32At (bigEndian : Bool) (pos : Nat) (bytes : List UInt8) :
    Except DecodeError String :=
  (fun cs => String.ofList cs.toList) <$>
    utf32Chars bigEndian (orderedName "32" bigEndian) pos #[] bytes

/-- UTF-32 bytes as text; a byte-order mark sets the order, little-endian otherwise. -/
def decodeUtf32 (bytes : List UInt8) : Except DecodeError String :=
  match bytes with
  | 0xFF :: 0xFE :: 0 :: 0 :: rest => decodeUtf32At false 4 rest
  | 0 :: 0 :: 0xFE :: 0xFF :: rest => decodeUtf32At true 4 rest
  | _ => decodeUtf32At false 0 bytes

/-- The bytes of a JSON document as text. A byte-order mark names the encoding; without
one, the first bytes of a document, whose first character is ASCII, tell it by where their
zero bytes are. -/
def decodeJsonBytes (bytes : List UInt8) : Except DecodeError String :=
  match bytes with
  | 0 :: 0 :: 0xFE :: 0xFF :: _ | 0xFF :: 0xFE :: 0 :: 0 :: _ => decodeUtf32 bytes
  | 0xFE :: 0xFF :: _ | 0xFF :: 0xFE :: _ => decodeUtf16 bytes
  | 0xEF :: 0xBB :: 0xBF :: rest => decodeUtf8 rest
  | 0 :: b :: _ :: _ :: _ =>
    if b == 0 then decodeUtf32At true 0 bytes else decodeUtf16At true 0 bytes
  | _ :: 0 :: c :: d :: _ =>
    if c != 0 || d != 0 then decodeUtf16At false 0 bytes else decodeUtf32At false 0 bytes
  | [0, _] => decodeUtf16At true 0 bytes
  | [_, 0] => decodeUtf16At false 0 bytes
  | _ => decodeUtf8 bytes

def codeEscape (c : Char) : String :=
  if c.toNat < 0x100 then "\\x" ++ hex 2 c.toNat
  else if c.toNat < 0x10000 then "\\u" ++ hex 4 c.toNat
  else "\\U" ++ hex 8 c.toNat

def checkAscii (s : String) : Except Failure Unit :=
  let cs := s.toList
  let start := (cs.takeWhile (·.toNat < 128)).length
  match cs.drop start with
  | [] => .ok ()
  | c :: rest =>
    let run := 1 + (rest.takeWhile (·.toNat ≥ 128)).length
    let reason := ": ordinal not in range(128)"
    .error (.unencodable (if run == 1 then
      "'ascii' codec can't encode character '" ++ codeEscape c ++ "' in position " ++
        toString start ++ reason
    else
      "'ascii' codec can't encode characters in position " ++ toString start ++ "-" ++
        toString (start + run - 1) ++ reason))

end CatalogSync.Text
