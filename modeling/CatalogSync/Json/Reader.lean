import CatalogSync.Data.Value

/-!
# Reading JSON documents

`read` turns a JSON text into a `Value`. Beyond the standard grammar it takes the words
`NaN`, `Infinity` and `-Infinity` as doubles; a number with a fraction or an exponent is a
double rounded to nearest, any other number an integer of at most 4300 digits; a key given
twice keeps its first position and its last value.

A text that is no document fails with `Failure.malformedJson`, whose message names the first
offending position as `what: line L column C (char P)`, counting characters from zero.
-/

namespace CatalogSync.Json

/-- Why a text is no document, and at which character. -/
structure Refusal where
  what : String
  pos : Nat

def lineColumn (doc : List Char) (pos : Nat) : Nat × Nat :=
  let before := doc.take pos
  let line := (before.filter (· == '\n')).length + 1
  let column :=
    match (before.reverse.findIdx? (· == '\n')) with
    | some i => i + 1
    | none => pos + 1
  (line, column)

def Refusal.message (doc : List Char) (r : Refusal) : String :=
  let (line, column) := lineColumn doc r.pos
  r.what ++ ": line " ++ toString line ++ " column " ++ toString column ++ " (char " ++
    toString r.pos ++ ")"

abbrev Step (α : Type) := Except (Refusal ⊕ Failure) (α × Nat × List Char)

def isSpace (c : Char) : Bool := c == ' ' || c == '\t' || c == '\n' || c == '\r'

def skip : Nat → List Char → Nat × List Char
  | pos, c :: cs => if isSpace c then skip (pos + 1) cs else (pos, c :: cs)
  | pos, [] => (pos, [])

def hexValue (c : Char) : Option Nat :=
  if '0' ≤ c ∧ c ≤ '9' then some (c.toNat - '0'.toNat)
  else if 'a' ≤ c ∧ c ≤ 'f' then some (c.toNat - 'a'.toNat + 10)
  else if 'A' ≤ c ∧ c ≤ 'F' then some (c.toNat - 'A'.toNat + 10)
  else none

def hex4 : List Char → Option Nat
  | [a, b, c, d] => do
    let a ← hexValue a; let b ← hexValue b; let c ← hexValue c; let d ← hexValue d
    pure (((a * 16 + b) * 16 + c) * 16 + d)
  | _ => none

def charOf (n : Nat) : Char :=
  if n < 0xD800 ∨ (0xDFFF < n ∧ n < 0x110000) then Char.ofNat n else '�'

def shortEscape (c : Char) : Option Char :=
  if c = '"' then some '"' else if c = '\\' then some '\\' else if c = '/' then some '/'
  else if c = 'b' then some '\x08' else if c = 'f' then some '\x0c'
  else if c = 'n' then some '\n' else if c = 'r' then some '\r'
  else if c = 't' then some '\t' else none

def readText (begin : Nat) : Nat → Nat → List Char → List Char → Step String
  | 0, _, _, _ => .error (.inl ⟨"Unterminated string starting at", begin⟩)
  | _ + 1, _, _, [] => .error (.inl ⟨"Unterminated string starting at", begin⟩)
  | fuel + 1, pos, acc, c :: rest =>
    if c = '"' then .ok (String.ofList acc.reverse, pos + 1, rest)
    else if c = '\\' then
      match rest with
      | [] => .error (.inl ⟨"Unterminated string starting at", begin⟩)
      | e :: rest' =>
        if e = 'u' then
          -- four digits must follow, and at least one more character
          if rest'.length ≤ 4 then .error (.inl ⟨"Invalid \\uXXXX escape", pos + 1⟩)
          else
            match hex4 (rest'.take 4) with
            | none => .error (.inl ⟨"Invalid \\uXXXX escape", pos + 1⟩)
            | some hi =>
              let after := rest'.drop 4
              let pos' := pos + 6
              if 0xD800 ≤ hi ∧ hi ≤ 0xDBFF ∧ after.length > 6 ∧ after.take 2 = ['\\', 'u'] then
                match hex4 ((after.drop 2).take 4) with
                | none => .error (.inl ⟨"Invalid \\uXXXX escape", pos' + 1⟩)
                | some lo =>
                  if 0xDC00 ≤ lo ∧ lo ≤ 0xDFFF then
                    let c := Char.ofNat (0x10000 + (hi - 0xD800) * 0x400 + (lo - 0xDC00))
                    readText begin fuel (pos' + 6) (c :: acc) (after.drop 6)
                  else readText begin fuel pos' (charOf hi :: acc) after
              else readText begin fuel pos' (charOf hi :: acc) after
        else
          match shortEscape e with
          | some x => readText begin fuel (pos + 2) (x :: acc) rest'
          | none => .error (.inl ⟨"Invalid \\escape", pos⟩)
    else if c.toNat ≤ 0x1F then .error (.inl ⟨"Invalid control character at", pos⟩)
    else readText begin fuel (pos + 1) (c :: acc) rest

def readQuoted (begin : Nat) (rest : List Char) : Step String :=
  readText begin (rest.length + 1) (begin + 1) [] rest

def digitsPrefix (cs : List Char) : List Char × List Char :=
  (cs.takeWhile Char.isDigit, cs.dropWhile Char.isDigit)

def decimalToFloat (negative : Bool) (digits : Nat) (exp : Int) : Float :=
  if digits = 0 then Binary64.ofRatio negative 0 1
  else
    let size := Int.ofNat (Shortest.digitCount digits) + exp
    if size > 330 then Binary64.infinity negative
    else if size < -330 then Binary64.ofRatio negative 0 1
    else if 0 ≤ exp then Binary64.ofRatio negative (digits * Nat.pow 10 exp.toNat) 1
    else Binary64.ofRatio negative digits (Nat.pow 10 (-exp).toNat)

def digitsValue (ds : List Char) : Nat :=
  ds.foldl (fun acc d => acc * 10 + (d.toNat - '0'.toNat)) 0

def integerDigitLimit : Nat := 4300

def readNumber (pos : Nat) (cs : List Char) : Option (Except Failure (Value × Nat × List Char)) :=
  let (negative, body) := match cs with
    | '-' :: rest => (true, rest)
    | _ => (false, cs)
  let signLen := if negative then 1 else 0
  let intPart : Option (List Char × List Char) :=
    match body with
    | '0' :: rest => some (['0'], rest)
    | c :: _ => if '1' ≤ c ∧ c ≤ '9' then some (digitsPrefix body) else none
    | [] => none
  intPart.map fun (ip, rest) =>
    let (fp, rest) : List Char × List Char :=
      match rest with
      | '.' :: d :: more => if d.isDigit then digitsPrefix (d :: more) else ([], rest)
      | _ => ([], rest)
    let hasFrac := !fp.isEmpty
    let (ePart, expSign, rest) : List Char × Bool × List Char :=
      match rest with
      | e :: more =>
        if e = 'e' ∨ e = 'E' then
          let (neg, afterSign, signed) := match more with
            | '-' :: m => (true, m, true)
            | '+' :: m => (false, m, true)
            | m => (false, m, false)
          let (ed, after) := digitsPrefix afterSign
          if ed.isEmpty then ([], false, rest)
          else ((if signed then [e, '+'] else [e]) ++ ed, neg, after)
        else ([], false, rest)
      | [] => ([], false, rest)
    let len := signLen + ip.length + (if hasFrac then fp.length + 1 else 0) + ePart.length
    if !hasFrac && ePart.isEmpty then
      if ip.length > integerDigitLimit then
        .error (.invalid ("Exceeds the limit (" ++ toString integerDigitLimit ++
          " digits) for integer string conversion: value has " ++ toString ip.length ++
          " digits; use sys.set_int_max_str_digits() to increase the limit"))
      else
        let n := Int.ofNat (digitsValue ip)
        .ok (.int (if negative then -n else n), pos + len, rest)
    else
      let expDigits := ePart.filter Char.isDigit
      let e10 : Int := (if expSign then -1 else 1) * Int.ofNat (digitsValue expDigits)
      let x := decimalToFloat negative (digitsValue (ip ++ fp)) (e10 - Int.ofNat fp.length)
      .ok (.float x, pos + len, rest)

def notANumber : Float := Binary64.assemble false 2047 (Nat.pow 2 51)

def nestingLimit : Nat := 980

mutual
def readValue : Nat → Nat → Nat → List Char → Step Value
  | 0, _, _, _ => .error (.inr .tooDeep)
  | fuel + 1, depth, pos, cs =>
    match cs with
    | '"' :: rest => match readQuoted pos rest with
      | .ok (s, p, r) => .ok (.str s, p, r)
      | .error e => .error e
    | '{' :: rest =>
      if depth ≥ nestingLimit then
        .error (.inr (.tooDeepWhile " while decoding a JSON object from a unicode string"))
      else
      let (p, r) := skip (pos + 1) rest
      match r with
      | '}' :: r' => .ok (.obj [], p + 1, r')
      | _ => readFields fuel (depth + 1) [] p r
    | '[' :: rest =>
      if depth ≥ nestingLimit then
        .error (.inr (.tooDeepWhile " while decoding a JSON array from a unicode string"))
      else
      let (p, r) := skip (pos + 1) rest
      match r with
      | ']' :: r' => .ok (.list [], p + 1, r')
      | _ => readItems fuel (depth + 1) [] p r
    | 'n' :: 'u' :: 'l' :: 'l' :: rest => .ok (.null, pos + 4, rest)
    | 't' :: 'r' :: 'u' :: 'e' :: rest => .ok (.bool true, pos + 4, rest)
    | 'f' :: 'a' :: 'l' :: 's' :: 'e' :: rest => .ok (.bool false, pos + 5, rest)
    | 'N' :: 'a' :: 'N' :: rest => .ok (.float notANumber, pos + 3, rest)
    | 'I' :: 'n' :: 'f' :: 'i' :: 'n' :: 'i' :: 't' :: 'y' :: rest =>
      .ok (.float (Binary64.infinity false), pos + 8, rest)
    | '-' :: 'I' :: 'n' :: 'f' :: 'i' :: 'n' :: 'i' :: 't' :: 'y' :: rest =>
      .ok (.float (Binary64.infinity true), pos + 9, rest)
    | _ =>
      match readNumber pos cs with
      | some (.ok r) => .ok r
      | some (.error f) => .error (.inr f)
      | none => .error (.inl ⟨"Expecting value", pos⟩)

def readItems : Nat → Nat → List Value → Nat → List Char → Step Value
  | 0, _, _, _, _ => .error (.inr .tooDeep)
  | fuel + 1, depth, acc, pos, cs =>
    match readValue fuel depth pos cs with
    | .error e => .error e
    | .ok (v, p, r) =>
      let (p, r) := skip p r
      match r with
      | ']' :: r' => .ok (.list (v :: acc).reverse, p + 1, r')
      | ',' :: r' =>
        let (p', r'') := skip (p + 1) r'
        readItems fuel depth (v :: acc) p' r''
      | _ => .error (.inl ⟨"Expecting ',' delimiter", p⟩)

def readFields : Nat → Nat → List (String × Value) → Nat → List Char → Step Value
  | 0, _, _, _, _ => .error (.inr .tooDeep)
  | fuel + 1, depth, acc, pos, cs =>
    match cs with
    | '"' :: rest =>
      match readQuoted pos rest with
      | .error e => .error e
      | .ok (key, p, r) =>
        let (p, r) := skip p r
        match r with
        | ':' :: r' =>
          let (p, r) := skip (p + 1) r'
          match readValue fuel depth p r with
          | .error e => .error e
          | .ok (v, p, r) =>
            let acc := Value.setField acc key v
            let (p, r) := skip p r
            match r with
            | '}' :: r' => .ok (.obj acc, p + 1, r')
            | ',' :: r' =>
              let (p', r'') := skip (p + 1) r'
              readFields fuel depth acc p' r''
            | _ => .error (.inl ⟨"Expecting ',' delimiter", p⟩)
        | _ => .error (.inl ⟨"Expecting ':' delimiter", p⟩)
    | _ => .error (.inl ⟨"Expecting property name enclosed in double quotes", pos⟩)
end

/-- Reads a whole JSON document. -/
def read (s : String) : Except Failure Value :=
  let doc := s.toList
  let refuse (r : Refusal) : Except Failure Value := .error (.malformedJson (r.message doc))
  match doc with
  | '﻿' :: _ => refuse ⟨"Unexpected UTF-8 BOM (decode using utf-8-sig)", 0⟩
  | _ =>
    let (p, r) := skip 0 doc
    match readValue (2 * doc.length + 2) 0 p r with
    | .error (.inl refusal) => refuse refusal
    | .error (.inr f) => .error f
    | .ok (v, p, r) =>
      let (p, r) := skip p r
      if r.isEmpty then .ok v else refuse ⟨"Extra data", p⟩

end CatalogSync.Json
