/-!
# LIKE and GLOB patterns

`patternMatch` decides whether a text matches a pattern, the way both `LIKE` and `GLOB`
do, given which characters match any run (`%` or `*`), one character (`_` or `?`), and the
escape character (for `LIKE`) or the set opener `[` (for `GLOB`).

A run wildcard first swallows any run wildcards and one-character wildcards after it (each
of the latter taking one character of the text), then tries every place in the text where
the next pattern character occurs. A set `[…]` matches one character of it (`^` first
negates it, `a-z` is a range, a `]` first is a member). With case folding, ASCII letters
match either case.

The answer has three values, because a run wildcard that cannot match anywhere stops the
whole search: no later place can match either.
-/

namespace CatalogSync.Sql

/-- The outcome of matching a pattern. -/
inductive PatternResult where
  | matched
  | noMatch
  /-- No match, and no match for any later start either. -/
  | noWildcardMatch
  deriving DecidableEq, Repr

/-- How a pattern language reads its pattern. -/
structure PatternRules where
  /-- The character matching any run, if it has one. -/
  matchAll : Option Char
  /-- The character matching one character, if it has one. -/
  matchOne : Option Char
  /-- Whether `matchOther` opens a set (`GLOB`) rather than escaping (`LIKE`). -/
  matchSet : Bool
  /-- Whether ASCII letters match either case. -/
  noCase : Bool

def foldAscii (c : Char) : Char := if c.toNat < 0x80 then c.toLower else c

def isRule (r : Option Char) (c : Char) : Bool := r == some c

def setMatch (c : Char) : Nat → List Char → Nat → Bool → Option (Bool × List Char)
  | 0, _, _, _ => none
  | _, [], _, _ => none
  | fuel + 1, d :: rest, prior, seen =>
    if d == ']' then some (seen, rest)
    else if d == '-' && prior > 0 && (match rest with
        | e :: _ => e != ']'
        | [] => false) then
      match rest with
      | e :: more =>
        setMatch c fuel more 0 (seen || (prior ≤ c.toNat && c.toNat ≤ e.toNat))
      | [] => none
    else setMatch c fuel rest d.toNat (seen || c = d)

mutual

/-- Matches a pattern against a text; `escaped` tells whether the last pattern character
was taken literally after an escape. -/
def patternMatch (rules : PatternRules) (other : Option Char) :
    Nat → List Char → List Char → PatternResult
  | 0, _, _ => .noMatch
  | _ + 1, [], text => if text.isEmpty then .matched else .noMatch
  | fuel + 1, c :: pattern, text =>
    if isRule rules.matchAll c then afterRun rules other fuel pattern text
    else if isRule other c then
      if !rules.matchSet then
        match pattern with
        | [] => .noMatch
        | e :: rest =>
          match text with
          | t :: more =>
            if e = t || (rules.noCase && e.toNat < 0x80 && t.toNat < 0x80 &&
                foldAscii e = foldAscii t) then patternMatch rules other fuel rest more
            else .noMatch
          | [] => .noMatch
      else
        match text with
        | [] => .noMatch
        | t :: more =>
          let (invert, body) := match pattern with
            | '^' :: r => (true, r)
            | _ => (false, pattern)
          let (seen0, body) := match body with
            | ']' :: r => (t == ']', r)
            | _ => (false, body)
          match setMatch t (body.length + 1) body 0 seen0 with
          | none => .noMatch
          | some (seen, after) =>
            if seen != invert then patternMatch rules other fuel after more else .noMatch
    else
      match text with
      | [] => .noMatch
      | t :: more =>
        if c = t || (rules.noCase && c.toNat < 0x80 && t.toNat < 0x80 &&
            foldAscii c = foldAscii t) then patternMatch rules other fuel pattern more
        else if isRule rules.matchOne c then patternMatch rules other fuel pattern more
        else .noMatch

def afterRun (rules : PatternRules) (other : Option Char) :
    Nat → List Char → List Char → PatternResult
  | 0, _, _ => .noMatch
  | fuel + 1, pattern, text =>
    match pattern with
    | [] => .matched
    | c :: rest =>
      if isRule rules.matchAll c then afterRun rules other fuel rest text
      else if isRule rules.matchOne c then
        match text with
        | [] => .noWildcardMatch
        | _ :: more => afterRun rules other fuel rest more
      else if isRule other c && rules.matchSet then
        tryEach rules other fuel pattern text
      else
        let (target, next) :=
          if isRule other c then
            match rest with
            | e :: r => (some e, r)
            | [] => (none, [])
          else (some c, rest)
        match target with
        | none => .noWildcardMatch
        | some e => seekChar rules other fuel e next text

def tryEach (rules : PatternRules) (other : Option Char) :
    Nat → List Char → List Char → PatternResult
  | 0, _, _ => .noMatch
  | fuel + 1, pattern, text =>
    match text with
    | [] => .noWildcardMatch
    | _ :: more =>
      match patternMatch rules other fuel pattern text with
      | .noMatch => tryEach rules other fuel pattern more
      | r => r

def seekChar (rules : PatternRules) (other : Option Char) :
    Nat → Char → List Char → List Char → PatternResult
  | 0, _, _, _ => .noMatch
  | fuel + 1, e, next, text =>
    match text with
    | [] => .noWildcardMatch
    | t :: more =>
      let hit := if rules.noCase && e.toNat < 0x80 then foldAscii t = foldAscii e else t = e
      if hit then
        match patternMatch rules other fuel next more with
        | .noMatch => seekChar rules other fuel e next more
        | r => r
      else seekChar rules other fuel e next more

end

def likeRules (caseSensitive : Bool) : PatternRules :=
  { matchAll := some '%', matchOne := some '_', matchSet := false, noCase := !caseSensitive }

def globRules : PatternRules :=
  { matchAll := some '*', matchOne := some '?', matchSet := true, noCase := false }

def patternHolds (rules : PatternRules) (other : Option Char) (pattern text : String) : Bool :=
  let p := pattern.toList.takeWhile (· ≠ '\x00')
  let t := text.toList.takeWhile (· ≠ '\x00')
  patternMatch rules other ((p.length + 2) * (t.length + 2) * 2) p t == .matched

def likeMatches (pattern text : String) (escape : Option Char) : Bool :=
  let rules := likeRules false
  let rules := match escape with
    | some e =>
      { rules with matchAll := if e = '%' then none else rules.matchAll,
                   matchOne := if e = '_' then none else rules.matchOne }
    | none => rules
  patternHolds rules escape pattern text

def globMatches (pattern text : String) : Bool := patternHolds globRules (some '[') pattern text

end CatalogSync.Sql
