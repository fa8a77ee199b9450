import Mathlib.Data.List.Basic
import Mathlib.Data.List.Infix

/-!
# The text functions of Go's standard library

`strings` and `strconv` as far as this development needs them, over the characters of a string so
that they evaluate in the kernel. Where a function of Go returns a value next to an error, the value
is kept: callers do read it.
-/

namespace Go

/-! ## `strings` -/

def hasPrefix (s p : String) : Bool := p.toList.isPrefixOf s.toList

def trimPrefix (s p : String) : String :=
  if hasPrefix s p then String.ofList (s.toList.drop p.toList.length) else s

def trimSuffix (s p : String) : String :=
  if p.toList.isSuffixOf s.toList then String.ofList (s.toList.take (s.toList.length - p.toList.length)) else s

/-- `strings.Contains`: `sub` starts at some position of `s`. -/
def contains (s sub : String) : Bool := s.toList.tails.any (sub.toList.isPrefixOf ·)

def trimLeft (s : String) (cutset : List Char) : String :=
  String.ofList (s.toList.dropWhile (cutset.contains ·))

def trimRight (s : String) (cutset : List Char) : String :=
  String.ofList (s.toList.reverse.dropWhile (cutset.contains ·)).reverse

/-- The characters `unicode.IsSpace` accepts. -/
def spaces : List Char :=
  ([0x09, 0x0a, 0x0b, 0x0c, 0x0d, 0x20, 0x85, 0xa0, 0x1680] ++ List.range' 0x2000 11 ++
    [0x2028, 0x2029, 0x202f, 0x205f, 0x3000]).map Char.ofNat

def trimSpace (s : String) : String := trimRight (trimLeft s spaces) spaces

/-- Cut a list at every occurrence of `sep`; the result is never empty. -/
def splitChars (sep : Char) : List Char → List (List Char)
  | [] => [[]]
  | c :: cs =>
    if c = sep then [] :: splitChars sep cs
    else match splitChars sep cs with
      | [] => [[c]]
      | piece :: rest => (c :: piece) :: rest

/-- `strings.Split` with a separator of one character. -/
def split (s : String) (sep : Char) : List String := (splitChars sep s.toList).map String.ofList

/-- `strings.Cut` with a separator of one character: what is before and after its first occurrence. -/
def cut (s : String) (sep : Char) : Option (String × String) :=
  match s.toList.dropWhile (· ≠ sep) with
  | [] => none
  | _ :: after => some (String.ofList (s.toList.takeWhile (· ≠ sep)), String.ofList after)

/-- What follows the last occurrence of `sep`, or the whole text when there is none. -/
def afterLast (s : String) (sep : Char) : String :=
  String.ofList (s.toList.reverse.takeWhile (· ≠ sep)).reverse

/-- Replace the occurrences of a non-empty `old`, at most `n` of them, scanning from the left. The
fuel is the length of the text. -/
def replaceChars (old new : List Char) : Nat → Nat → List Char → List Char
  | 0, _, cs => cs
  | _, 0, cs => cs
  | _, _, [] => []
  | fuel + 1, n + 1, c :: cs =>
    if old.isPrefixOf (c :: cs) then
      new ++ replaceChars old new fuel n ((c :: cs).drop old.length)
    else c :: replaceChars old new fuel (n + 1) cs

/-- `strings.Replace(s, old, new, n)` for a non-empty `old` and `n ≥ 0`. -/
def replace (s old new : String) (n : Nat) : String :=
  String.ofList (replaceChars old.toList new.toList s.length n s.toList)

/-- `strings.ReplaceAll` for a non-empty `old`. -/
def replaceAll (s old new : String) : String := replace s old new s.length

def join (pieces : List String) (sep : String) : String := sep.intercalate pieces

/-! ## `strconv` -/

inductive NumError where
  | invalidSyntax
  | outOfRange
  deriving DecidableEq, Repr

def digit? (c : Char) : Option Nat := if c.isDigit then some (c.toNat - '0'.toNat) else none

/-- The value of a non-empty run of decimal digits. -/
def digits? : List Char → Option Nat
  | [] => none
  | cs => cs.foldl (fun acc c => acc.bind fun n => (digit? c).map (10 * n + ·)) (some 0)

/-- 2^63 - 1 -/
def maxInt : Int := 9223372036854775807

/-- `strconv.Atoi` on a 64-bit platform: an optional sign and decimal digits. On a syntax error the
value is 0; out of range it is the nearest bound. -/
def atoi (s : String) : Int × Option NumError :=
  let (neg, cs) := match s.toList with
    | '-' :: cs => (true, cs)
    | '+' :: cs => (false, cs)
    | cs => (false, cs)
  match digits? cs with
  | none => (0, some .invalidSyntax)
  | some n =>
    if neg then
      if (n : Int) ≤ maxInt + 1 then (-n, none) else (-(maxInt + 1), some .outOfRange)
    else if (n : Int) ≤ maxInt then (n, none) else (maxInt, some .outOfRange)

/-- `strconv.Itoa`, and `fmt.Sprintf("%d")` of a signed integer. -/
def itoa (n : Int) : String := toString n

/-- `strconv.ParseBool`, with `none` for a syntax error. -/
def parseBool (s : String) : Option Bool :=
  if s ∈ ["1", "t", "T", "true", "TRUE", "True"] then some true
  else if s ∈ ["0", "f", "F", "false", "FALSE", "False"] then some false
  else none

/-! ## Splitting and reading numbers -/

theorem length_splitChars (sep : Char) (cs : List Char) :
    (splitChars sep cs).length = cs.count sep + 1 := by
  induction cs with
  | nil => rfl
  | cons c cs ih =>
      unfold splitChars
      by_cases h : c = sep
      · rw [if_pos h, h, List.count_cons_self, List.length_cons, ih]
      · rw [if_neg h, List.count_cons_of_ne h]
        cases hpieces : splitChars sep cs with
        | nil =>
            rw [hpieces] at ih
            cases ih
        | cons piece rest =>
            rw [hpieces] at ih
            exact ih

theorem splitChars_of_not_mem {sep : Char} {cs : List Char} (h : sep ∉ cs) :
    splitChars sep cs = [cs] := by
  induction cs with
  | nil => rfl
  | cons c cs ih =>
      rw [List.mem_cons, not_or] at h
      obtain ⟨hc, hcs⟩ := h
      rw [splitChars, if_neg (Ne.symm hc), ih hcs]

theorem splitChars_append {sep : Char} {a : List Char} (h : sep ∉ a) (b : List Char) :
    splitChars sep (a ++ sep :: b) = a :: splitChars sep b := by
  induction a with
  | nil => exact if_pos rfl
  | cons c a ih =>
      rw [List.mem_cons, not_or] at h
      obtain ⟨hc, ha⟩ := h
      rw [List.cons_append, splitChars, if_neg (Ne.symm hc), ih ha]

/-- The first piece is what stands before the first separator. -/
theorem head?_splitChars (sep : Char) (cs : List Char) :
    (splitChars sep cs).head? = some (cs.takeWhile (· ≠ sep)) := by
  induction cs with
  | nil => rfl
  | cons c cs ih =>
      unfold splitChars
      by_cases hc : c = sep
      · rw [if_pos hc, List.takeWhile_cons_of_neg (by simpa using hc)]
        rfl
      · rw [if_neg hc, List.takeWhile_cons_of_pos (by simpa using hc)]
        cases hsplit : splitChars sep cs with
        | nil => rw [hsplit] at ih; cases ih
        | cons piece rest =>
            rw [hsplit] at ih
            rw [Option.some.inj ih]
            rfl

theorem contains_iff {s sub : String} : contains s sub = true ↔ sub.toList <:+: s.toList := by
  unfold contains
  rw [List.any_eq_true, List.infix_iff_prefix_suffix]
  simp only [List.mem_tails, List.isPrefixOf_iff_prefix]
  exact exists_congr fun _ => and_comm

theorem hasPrefix_append (s t : String) : hasPrefix (s ++ t) s = true := by
  rw [hasPrefix, String.toList_append]
  exact List.isPrefixOf_iff_prefix.mpr (List.prefix_append ..)

theorem trimSuffix_append (s p : String) : trimSuffix (s ++ p) p = s := by
  have hsuffix : p.toList.isSuffixOf (s ++ p).toList = true := by
    rw [List.isSuffixOf_iff_suffix, String.toList_append]
    exact List.suffix_append ..
  rw [trimSuffix, if_pos hsuffix, String.toList_append, List.length_append, Nat.add_sub_cancel, List.take_left,
    String.ofList_toList]

/-- The number that a list of decimal digits stands for. -/
def decimalValue (cs : List Char) : Nat := cs.foldl (fun n c => 10 * n + (c.toNat - '0'.toNat)) 0

/-- A decimal number: one digit or more, without a sign. -/
def IsNumeral (cs : List Char) (n : Nat) : Prop :=
  cs ≠ [] ∧ (∀ c ∈ cs, c.isDigit = true) ∧ decimalValue cs = n

theorem IsNumeral.digits?_eq {cs : List Char} {n : Nat} (h : IsNumeral cs n) : digits? cs = some n := by
  obtain ⟨hne, hdigits, rfl⟩ := h
  have hfold : ∀ (cs : List Char) (n : Nat), (∀ c ∈ cs, c.isDigit = true) →
      cs.foldl (fun acc c => acc.bind fun n => (digit? c).map (10 * n + ·)) (some n) =
        some (cs.foldl (fun n c => 10 * n + (c.toNat - '0'.toNat)) n) := by
    intro cs
    induction cs with
    | nil => exact fun _ _ => rfl
    | cons c cs ih =>
        intro n hcs
        have hc : digit? c = some (c.toNat - '0'.toNat) := if_pos (hcs c List.mem_cons_self)
        rw [List.foldl_cons, List.foldl_cons, Option.bind_some, hc, Option.map_some]
        exact ih _ fun c' hc' => hcs c' (List.mem_cons_of_mem _ hc')
  cases cs with
  | nil => exact (hne rfl).elim
  | cons c cs => exact hfold (c :: cs) 0 hdigits

theorem IsNumeral.not_mem {cs : List Char} {n : Nat} (h : IsNumeral cs n) {c : Char}
    (hc : c.isDigit = false) : c ∉ cs :=
  fun hmem => Bool.false_ne_true (hc.symm.trans (h.2.1 c hmem))

/-- The largest value `Atoi` returns stands for all larger ones. -/
def capped (n : Nat) : Int := min n maxInt

/-- `Atoi` of a decimal number is the number, as far as it fits. -/
theorem IsNumeral.atoi_eq {cs : List Char} {n : Nat} (h : IsNumeral cs n) :
    (atoi (String.ofList cs)).1 = capped n := by
  have hsigns : ∀ cs', cs ≠ '-' :: cs' ∧ cs ≠ '+' :: cs' := fun cs' =>
    ⟨fun heq => h.not_mem (c := '-') (by decide) (heq ▸ List.mem_cons_self),
      fun heq => h.not_mem (c := '+') (by decide) (heq ▸ List.mem_cons_self)⟩
  unfold atoi
  rw [String.toList_ofList]
  split
  next neg cs' heq =>
    split at heq
    next cs'' => exact ((hsigns cs'').1 rfl).elim
    next cs'' => exact ((hsigns cs'').2 rfl).elim
    next =>
      cases heq
      rw [h.digits?_eq, capped]
      dsimp only
      rw [if_neg Bool.false_ne_true]
      split <;> dsimp only <;> omega

example : atoi "-12" = (-12, none) ∧ atoi "1x" = (0, some .invalidSyntax) := by decide

example : split "2.16.0" '.' = ["2", "16", "0"] := by decide

example : trimSpace " a b\n" = "a b" ∧ replace "xaya" "a" "" 1 = "xya" := by decide

end Go
