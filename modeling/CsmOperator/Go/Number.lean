import CsmOperator.Go.Text

/-!
# `strconv.ParseInt` with base 0, and the errors of `strconv`

With base 0 a number may have a prefix for its base and underscores between its digits. The text is
scanned from the left; the first character that is no digit and the first digit that is out of range
decide which error there is.
-/

namespace Go

/-- `lower` of `strconv`: the small letter of an ASCII letter. -/
def lower (c : Char) : Char := if c.isUpper then Char.ofNat (c.toNat + 32) else c

/-- The value of a digit in any base up to 36. -/
def anyDigit? (c : Char) : Option Nat :=
  if c.isDigit then some (c.toNat - '0'.toNat)
  else if (lower c).isLower then some ((lower c).toNat - 'a'.toNat + 10)
  else none

/-- The base that the prefix of a number names, and what follows the prefix. -/
def basePrefix : List Char → Nat × List Char
  | '0' :: c :: d :: cs =>
    if lower c = 'b' then (2, d :: cs)
    else if lower c = 'o' then (8, d :: cs)
    else if lower c = 'x' then (16, d :: cs)
    else (8, c :: d :: cs)
  | '0' :: cs => (8, cs)
  | cs => (10, cs)

/-- The digits of a number, underscores skipped, with values up to `maxVal`. -/
def scanDigits (base maxVal : Nat) : Nat → List Char → Except NumError Nat
  | n, [] => .ok n
  | n, c :: cs =>
    if c = '_' then scanDigits base maxVal n cs
    else match anyDigit? c with
      | none => .error .invalidSyntax
      | some d =>
        if base ≤ d then .error .invalidSyntax
        else if maxVal < n * base + d then .error .outOfRange
        else scanDigits base maxVal (n * base + d) cs

/-- What `underscoreOK` has seen last. -/
inductive Seen where
  | start
  | digit
  | underscore
  | other
  deriving DecidableEq, Repr

/-- Underscores separate digits: the loop of `underscoreOK`. -/
def separatesDigits (hex : Bool) : Seen → List Char → Bool
  | saw, [] => saw ≠ .underscore
  | saw, c :: cs =>
    if c.isDigit || hex && decide ('a' ≤ lower c ∧ lower c ≤ 'f') then separatesDigits hex .digit cs
    else if c = '_' then
      if saw = .digit then separatesDigits hex .underscore cs else false
    else if saw = .underscore then false
    else separatesDigits hex .other cs

/-- `underscoreOK`, after the sign. -/
def underscoreOK : List Char → Bool
  | '0' :: c :: cs =>
    if lower c = 'b' ∨ lower c = 'o' ∨ lower c = 'x' then
      separatesDigits (decide (lower c = 'x')) .digit cs
    else separatesDigits false .start ('0' :: c :: cs)
  | cs => separatesDigits false .start cs

/-- `strconv.ParseUint(s, 0, bitSize)`. -/
def parseUint (bitSize : Nat) (cs : List Char) : Except NumError Nat :=
  if cs = [] then .error .invalidSyntax
  else
    let (base, digits) := basePrefix cs
    match scanDigits base (Nat.pow 2 bitSize - 1) 0 digits with
    | .error e => .error e
    | .ok n => if '_' ∈ digits ∧ underscoreOK cs = false then .error .invalidSyntax else .ok n

/-- `strconv.ParseInt(s, 0, bitSize)`. -/
def parseInt (bitSize : Nat) (s : String) : Except NumError Int :=
  let (neg, cs) := match s.toList with
    | '-' :: cs => (true, cs)
    | '+' :: cs => (false, cs)
    | cs => (false, cs)
  match parseUint bitSize cs with
  | .error e => .error e
  | .ok n =>
    if neg then if Nat.pow 2 (bitSize - 1) < n then .error .outOfRange else .ok (-n)
    else if Nat.pow 2 (bitSize - 1) ≤ n then .error .outOfRange else .ok n

example : parseInt 8 "3" = .ok 3 ∧ parseInt 8 "-0x10" = .ok (-16) ∧ parseInt 8 "017" = .ok 15 ∧
    parseInt 8 "1_0" = .ok 10 ∧ parseInt 8 "_1" = .error .invalidSyntax ∧
    parseInt 8 "128" = .error .outOfRange := by decide

/-! ## Errors -/

/-- A character inside a text quoted by `strconv.Quote`; characters beyond ASCII count as printable. -/
def quoteChar (c : Char) : List Char :=
  if c = '"' then ['\\', '"'] else if c = '\\' then ['\\', '\\']
  else if c = Char.ofNat 7 then ['\\', 'a'] else if c = Char.ofNat 8 then ['\\', 'b']
  else if c = Char.ofNat 12 then ['\\', 'f'] else if c = '\n' then ['\\', 'n']
  else if c = '\r' then ['\\', 'r'] else if c = '\t' then ['\\', 't']
  else if c = Char.ofNat 11 then ['\\', 'v']
  else if c.toNat < 32 ∨ c.toNat = 127 then
    ['\\', 'x', Nat.digitChar (c.toNat / 16), Nat.digitChar (c.toNat % 16)]
  else [c]

/-- `strconv.Quote`. -/
def quote (s : String) : String := "\"" ++ String.ofList (s.toList.flatMap quoteChar) ++ "\""

def NumError.text : NumError → String
  | invalidSyntax => "invalid syntax"
  | outOfRange => "value out of range"

/-- The text of an error of the function `func` of `strconv` on `num`. -/
def numError (func num : String) (e : NumError) : String :=
  "strconv." ++ func ++ ": parsing " ++ quote num ++ ": " ++ e.text

end Go
