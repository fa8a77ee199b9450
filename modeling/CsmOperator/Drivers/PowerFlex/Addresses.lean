import CsmOperator.Go.Pieces
import CsmOperator.Go.Regexp

/-!
# Lists of IPv4 addresses: `pkg/drivers/powerflex.go`

The addresses of an MDM are a list with commas. `ValidateIPAddress` trims the pieces in place and matches
each with a regular expression; this module says which texts that expression matches, in numbers.
-/

namespace CsmOperator

open Go RegularExpression

/-! ## The code -/

/-- `[0-9]|[1-9][0-9]|1[0-9]{2}|2[0-4][0-9]|25[0-5]` -/
def octetRegex : RegularExpression Char :=
  charClass '0' '9' + charClass '1' '9' * charClass '0' '9' +
    char '1' * charClass '0' '9' ^ 2 + char '2' * charClass '0' '4' * charClass '0' '9' +
    char '2' * char '5' * charClass '0' '5'

/-- `^(octet\.){3}octet$` -/
def ipRegex : RegularExpression Char := (octetRegex * char '.') ^ 3 * octetRegex

def isIpv4Regex (ipAddress : String) : Bool := matchWhole ipRegex ipAddress

/-- The loop of `ValidateIPAddress`: the pieces that were trimmed, those that follow, and what was joined
last. -/
def validateIPs : List String → List String → String → String × Bool
  | _, [], newIP => (newIP, true)
  | trimmed, ip :: rest, newIP =>
    if isIpv4Regex (trimSpace ip) then
      validateIPs (trimmed ++ [trimSpace ip]) rest (join (trimmed ++ trimSpace ip :: rest) ",")
    else (newIP, false)

def validateIPAddress (ipAdd : String) : String × Bool :=
  let trimIP := split ipAdd ','
  if trimIP.length < 1 then ("", false) else validateIPs [] trimIP ""

/-! ## Dotted quads -/

/-- A decimal number from 0 to 255 without leading zeros. -/
def IsOctet (cs : List Char) : Prop :=
  ∃ n ≤ 255, IsNumeral cs n ∧ (cs.head? = some '0' → cs = ['0'])

/-- Four such numbers with dots between them. -/
def IsDottedQuad (s : String) : Prop :=
  ∃ a b c d, IsOctet a ∧ IsOctet b ∧ IsOctet c ∧ IsOctet d ∧
    s.toList = a ++ '.' :: (b ++ '.' :: (c ++ '.' :: d))

/-! ### The language of the expression -/

/-- The code of the character lies between the two. -/
def Between (lo hi : Nat) (c : Char) : Prop := lo ≤ c.toNat ∧ c.toNat ≤ hi

instance (lo hi : Nat) : DecidablePred (Between lo hi) := fun _ => inferInstanceAs (Decidable (_ ∧ _))

theorem mem_charClass {lo hi : Char} (hhi : hi.toNat < 0xd800) {x : List Char} :
    x ∈ (charClass lo hi).matches' ↔ ∃ c, Between lo.toNat hi.toNat c ∧ x = [c] :=
  mem_matches_charClass hhi

/-- The expression for one number, by the codes of its characters. -/
theorem mem_octetRegex {x : List Char} :
    x ∈ octetRegex.matches' ↔
      (∃ c, Between 48 57 c ∧ x = [c]) ∨
      (∃ c d, Between 49 57 c ∧ Between 48 57 d ∧ x = [c, d]) ∨
      (∃ d e, Between 48 57 d ∧ Between 48 57 e ∧ x = ['1', d, e]) ∨
      (∃ d e, Between 48 52 d ∧ Between 48 57 e ∧ x = ['2', d, e]) ∨
      ∃ e, Between 48 53 e ∧ x = ['2', '5', e] := by
  have hdigit : ∀ {y : List Char}, y ∈ (charClass '0' '9').matches' ↔ ∃ c, Between 48 57 c ∧ y = [c] :=
    mem_charClass (by decide)
  have hone : ∀ {y : List Char}, y ∈ (charClass '1' '9').matches' ↔ ∃ c, Between 49 57 c ∧ y = [c] :=
    mem_charClass (by decide)
  have hfour : ∀ {y : List Char}, y ∈ (charClass '0' '4').matches' ↔ ∃ c, Between 48 52 c ∧ y = [c] :=
    mem_charClass (by decide)
  have hfive : ∀ {y : List Char}, y ∈ (charClass '0' '5').matches' ↔ ∃ c, Between 48 53 c ∧ y = [c] :=
    mem_charClass (by decide)
  have hchar : ∀ {a : Char} {y : List Char}, y ∈ (char a).matches' ↔ y = [a] := Iff.rfl
  simp only [octetRegex, matches'_add, matches'_mul, matches'_pow, pow_two, Language.mem_add,
    Language.mem_mul, hdigit, hone, hfour, hfive, hchar, or_assoc]
  refine or_congr Iff.rfl (or_congr ?_ (or_congr ?_ (or_congr ?_ ?_)))
  · constructor
    · rintro ⟨_, ⟨c, hc, rfl⟩, _, ⟨d, hd, rfl⟩, rfl⟩
      exact ⟨c, d, hc, hd, rfl⟩
    · rintro ⟨c, d, hc, hd, rfl⟩
      exact ⟨[c], ⟨c, hc, rfl⟩, [d], ⟨d, hd, rfl⟩, rfl⟩
  · constructor
    · rintro ⟨_, rfl, _, ⟨_, ⟨d, hd, rfl⟩, _, ⟨e, he, rfl⟩, rfl⟩, rfl⟩
      exact ⟨d, e, hd, he, rfl⟩
    · rintro ⟨d, e, hd, he, rfl⟩
      exact ⟨_, rfl, [d, e], ⟨[d], ⟨d, hd, rfl⟩, [e], ⟨e, he, rfl⟩, rfl⟩, rfl⟩
  · constructor
    · rintro ⟨_, ⟨_, rfl, _, ⟨d, hd, rfl⟩, rfl⟩, _, ⟨e, he, rfl⟩, rfl⟩
      exact ⟨d, e, hd, he, rfl⟩
    · rintro ⟨d, e, hd, he, rfl⟩
      exact ⟨['2', d], ⟨_, rfl, [d], ⟨d, hd, rfl⟩, rfl⟩, [e], ⟨e, he, rfl⟩, rfl⟩
  · constructor
    · rintro ⟨_, ⟨_, rfl, _, rfl, rfl⟩, _, ⟨e, he, rfl⟩, rfl⟩
      exact ⟨e, he, rfl⟩
    · rintro ⟨e, he, rfl⟩
      exact ⟨['2', '5'], ⟨_, rfl, _, rfl, rfl⟩, [e], ⟨e, he, rfl⟩, rfl⟩

/-! ### The numbers it writes -/

theorem le_decimalValue (cs : List Char) (n : Nat) :
    n ≤ cs.foldl (fun n c => 10 * n + (c.toNat - '0'.toNat)) n := by
  induction cs generalizing n with
  | nil => exact Nat.le_refl n
  | cons c cs ih =>
      rw [List.foldl_cons]
      exact Nat.le_trans (by omega) (ih _)

theorem between_of_isDigit {c : Char} (h : c.isDigit = true) : Between 48 57 c := Char.isDigit_iff_toNat.mp h

theorem Between.isDigit {lo hi : Nat} {c : Char} (h : Between lo hi c) (hlo : 48 ≤ lo) (hhi : hi ≤ 57) :
    c.isDigit = true := by
  obtain ⟨h₁, h₂⟩ := h
  exact Char.isDigit_iff_toNat.mpr ⟨Nat.le_trans hlo h₁, Nat.le_trans h₂ hhi⟩

theorem decimalValue_three (c d e : Char) :
    decimalValue [c, d, e] = 100 * (c.toNat - 48) + 10 * (d.toNat - 48) + (e.toNat - 48) := by
  have heval : decimalValue [c, d, e] =
      10 * (10 * (10 * 0 + (c.toNat - 48)) + (d.toNat - 48)) + (e.toNat - 48) := rfl
  omega

theorem decimalValue_two (c d : Char) :
    decimalValue [c, d] = 10 * (c.toNat - 48) + (d.toNat - 48) := by
  have heval : decimalValue [c, d] = 10 * (10 * 0 + (c.toNat - 48)) + (d.toNat - 48) := rfl
  omega

/-- A number whose first digit is not a zero. -/
theorem isOctet_of_head {c : Char} {cs : List Char} (hc : Between 49 57 c)
    (hdigits : ∀ d ∈ cs, d.isDigit = true) (hvalue : decimalValue (c :: cs) ≤ 255) : IsOctet (c :: cs) := by
  refine ⟨_, hvalue, ⟨List.cons_ne_nil _ _, ?_, rfl⟩, fun hhead => ?_⟩
  · intro d hd
    obtain rfl | hd := List.mem_cons.mp hd
    · exact hc.isDigit (by omega) (by omega)
    · exact hdigits d hd
  · obtain rfl : c = '0' := Option.some.inj hhead
    exact absurd hc.1 (by decide)

/-- What the expression for one number matches is a number. -/
theorem isOctet_of_mem {x : List Char} (h : x ∈ octetRegex.matches') : IsOctet x := by
  obtain ⟨c, hc, rfl⟩ | ⟨c, d, hc, hd, rfl⟩ | ⟨d, e, hd, he, rfl⟩ | ⟨d, e, hd, he, rfl⟩ | ⟨e, he, rfl⟩ :=
    mem_octetRegex.mp h
  · have hvalue : decimalValue [c] = 10 * 0 + (c.toNat - 48) := rfl
    refine ⟨_, ?_, ⟨List.cons_ne_nil _ _, ?_, rfl⟩, fun hhead => ?_⟩
    · obtain ⟨h₁, h₂⟩ := hc
      omega
    · intro d hd
      rw [List.mem_singleton.mp hd]
      exact hc.isDigit (by omega) (by omega)
    · rw [Option.some.inj hhead]
  · refine isOctet_of_head hc (fun x hx => ?_) ?_
    · rw [List.mem_singleton.mp hx]
      exact hd.isDigit (by omega) (by omega)
    · rw [decimalValue_two]
      obtain ⟨⟨_, h₁⟩, ⟨_, h₂⟩⟩ := And.intro hc hd
      omega
  · have hone : '1'.toNat = 49 := rfl
    refine isOctet_of_head (by decide) (fun x hx => ?_) ?_
    · simp only [List.mem_cons, List.not_mem_nil, or_false] at hx
      obtain rfl | rfl := hx
      · exact hd.isDigit (by omega) (by omega)
      · exact he.isDigit (by omega) (by omega)
    · rw [decimalValue_three, hone]
      obtain ⟨⟨_, h₁⟩, ⟨_, h₂⟩⟩ := And.intro hd he
      omega
  · have htwo : '2'.toNat = 50 := rfl
    refine isOctet_of_head (by decide) (fun x hx => ?_) ?_
    · simp only [List.mem_cons, List.not_mem_nil, or_false] at hx
      obtain rfl | rfl := hx
      · exact hd.isDigit (by omega) (by omega)
      · exact he.isDigit (by omega) (by omega)
    · rw [decimalValue_three, htwo]
      obtain ⟨⟨_, h₁⟩, ⟨_, h₂⟩⟩ := And.intro hd he
      omega
  · have htwo : '2'.toNat = 50 := rfl
    have hfive : '5'.toNat = 53 := rfl
    refine isOctet_of_head (by decide) (fun x hx => ?_) ?_
    · simp only [List.mem_cons, List.not_mem_nil, or_false] at hx
      obtain rfl | rfl := hx
      · decide
      · exact he.isDigit (by omega) (by omega)
    · rw [decimalValue_three, htwo, hfive]
      obtain ⟨_, h₁⟩ := he
      omega

theorem mem_of_isOctet {x : List Char} (h : IsOctet x) : x ∈ octetRegex.matches' := by
  obtain ⟨n, hn, ⟨hne, hdigits, rfl⟩, hlead⟩ := h
  rw [mem_octetRegex]
  have hbetween : ∀ c ∈ x, Between 48 57 c := fun c hc => between_of_isDigit (hdigits c hc)
  -- Of two digits or more the first one is not a zero.
  have hfirst : ∀ c d cs, x = c :: d :: cs → Between 49 57 c := by
    rintro c d cs rfl
    obtain ⟨h₁, h₂⟩ := hbetween c List.mem_cons_self
    have hnonzero : c.toNat ≠ '0'.toNat := fun heq => by
      rw [Char.toNat_inj.mp heq] at hlead
      cases hlead rfl
    have hzero : '0'.toNat = 48 := rfl
    exact ⟨by omega, h₂⟩
  match x with
  | [] => exact absurd rfl hne
  | [c] => exact .inl ⟨c, hbetween c List.mem_cons_self, rfl⟩
  | [c, d] => exact .inr (.inl ⟨c, d, hfirst c d [] rfl, hbetween d (by simp), rfl⟩)
  | [c, d, e] =>
      have hc := hfirst c d [e] rfl
      have hd := hbetween d (by simp)
      have he := hbetween e (by simp)
      rw [decimalValue_three] at hn
      obtain ⟨⟨hc₁, hc₂⟩, ⟨hd₁, hd₂⟩, ⟨he₁, he₂⟩⟩ := And.intro hc (And.intro hd he)
      have htwo : '2'.toNat = 50 := rfl
      have hone : '1'.toNat = 49 := rfl
      have hfive : '5'.toNat = 53 := rfl
      -- The hundreds are one or two; with two of them the tens are at most five.
      obtain h | ⟨h, h'⟩ | ⟨h, h', h''⟩ : c.toNat = 49 ∨ (c.toNat = 50 ∧ d.toNat ≤ 52) ∨
          (c.toNat = 50 ∧ d.toNat = 53 ∧ e.toNat ≤ 53) := by omega
      · obtain rfl : c = '1' := Char.toNat_inj.mp (h.trans hone.symm)
        exact .inr (.inr (.inl ⟨d, e, hd, he, rfl⟩))
      · obtain rfl : c = '2' := Char.toNat_inj.mp (h.trans htwo.symm)
        exact .inr (.inr (.inr (.inl ⟨d, e, ⟨hd₁, h'⟩, he, rfl⟩)))
      · obtain rfl : c = '2' := Char.toNat_inj.mp (h.trans htwo.symm)
        obtain rfl : d = '5' := Char.toNat_inj.mp (h'.trans hfive.symm)
        exact .inr (.inr (.inr (.inr ⟨e, ⟨he₁, h''⟩, rfl⟩)))
  | c :: d :: e :: f :: rest =>
      have hc := (hfirst c d (e :: f :: rest) rfl).1
      have hle := le_decimalValue rest (10 * decimalValue [c, d, e] + (f.toNat - '0'.toNat))
      have hvalue : decimalValue (c :: d :: e :: f :: rest) =
          rest.foldl (fun n c => 10 * n + (c.toNat - '0'.toNat))
            (10 * decimalValue [c, d, e] + (f.toNat - '0'.toNat)) := rfl
      rw [decimalValue_three] at hle hvalue
      omega

theorem isIpv4Regex_iff {s : String} : isIpv4Regex s = true ↔ IsDottedQuad s := by
  have hoctet : ∀ {x : List Char}, x ∈ octetRegex.matches' ↔ IsOctet x :=
    ⟨isOctet_of_mem, mem_of_isOctet⟩
  have hdot : ∀ {x : List Char}, x ∈ (char '.').matches' ↔ x = ['.'] := Iff.rfl
  unfold isIpv4Regex
  rw [matchWhole_iff]
  simp only [ipRegex, matches'_mul, matches'_pow, pow_three', Language.mem_mul, hoctet, hdot]
  constructor
  · rintro ⟨_, ⟨_, ⟨_, ⟨a, ha, _, rfl, rfl⟩, _, ⟨b, hb, _, rfl, rfl⟩, rfl⟩, _, ⟨c, hc, _, rfl, rfl⟩, rfl⟩,
      d, hd, hs⟩
    refine ⟨a, b, c, d, ha, hb, hc, hd, ?_⟩
    rw [← hs]
    simp
  · rintro ⟨a, b, c, d, ha, hb, hc, hd, hs⟩
    refine ⟨_, ⟨_, ⟨_, ⟨a, ha, _, rfl, rfl⟩, _, ⟨b, hb, _, rfl, rfl⟩, rfl⟩, _, ⟨c, hc, _, rfl, rfl⟩, rfl⟩,
      d, hd, ?_⟩
    rw [hs]
    simp

/-! ## The list -/

/-- The pieces of a list with the white space around them removed. -/
def trimmedPieces (ipAdd : String) : List String := (split ipAdd ',').map trimSpace

/-- What the loop joins is the list with the pieces trimmed so far; after the last one, all of them. -/
theorem validateIPs_iff {trimmed rest : List String} {newIP : String} :
    (validateIPs trimmed rest newIP).2 = true ↔ ∀ ip ∈ rest, IsDottedQuad (trimSpace ip) := by
  induction rest generalizing trimmed newIP with
  | nil => simp [validateIPs]
  | cons ip rest ih =>
      unfold validateIPs
      rw [List.forall_mem_cons, ← isIpv4Regex_iff]
      split
      next h => rw [ih, and_iff_right h]
      next h => exact ⟨nofun, fun h' => absurd h'.1 h⟩

theorem validateIPs_fst {trimmed rest : List String} {newIP : String} (hne : rest ≠ [])
    (h : (validateIPs trimmed rest newIP).2 = true) :
    (validateIPs trimmed rest newIP).1 = join (trimmed ++ rest.map trimSpace) "," := by
  induction rest generalizing trimmed newIP with
  | nil => exact absurd rfl hne
  | cons ip rest ih =>
      unfold validateIPs at h ⊢
      split at h
      next hmatch =>
        rw [if_pos hmatch]
        cases rest with
        | nil => rfl
        | cons next rest =>
            rw [ih (List.cons_ne_nil _ _) h, List.append_assoc]
            rfl
      next => cases h

theorem validateIPAddress_eq (s : String) : validateIPAddress s = validateIPs [] (split s ',') "" := by
  have hpos := List.length_pos_iff.mpr (split_ne_nil s ',')
  unfold validateIPAddress
  exact if_neg (by omega)

theorem validateIPAddress_snd_iff {s : String} :
    (validateIPAddress s).2 = true ↔ ∀ ip ∈ trimmedPieces s, IsDottedQuad ip := by
  rw [validateIPAddress_eq, validateIPs_iff, trimmedPieces, List.forall_mem_map]

theorem validateIPAddress_fst {s : String} (h : (validateIPAddress s).2 = true) :
    (validateIPAddress s).1 = join (trimmedPieces s) "," := by
  rw [validateIPAddress_eq] at h ⊢
  exact validateIPs_fst (split_ne_nil s ',') h

/-- Splitting what was returned gives the trimmed pieces, and trimming them again changes nothing. -/
theorem trimmedPieces_join (s : String) : trimmedPieces (join (trimmedPieces s) ",") = trimmedPieces s := by
  have hsplit : split (join (trimmedPieces s) ",") ',' = trimmedPieces s := by
    refine split_join rfl (by simpa [trimmedPieces] using split_ne_nil s ',') fun ip hip => ?_
    obtain ⟨piece, hpiece, rfl⟩ := List.mem_map.mp hip
    exact fun hmem => not_mem_of_mem_split hpiece (mem_of_mem_trimSpace hmem)
  have hagain : ∀ ip ∈ trimmedPieces s, trimSpace ip = ip := by
    intro ip hip
    obtain ⟨piece, -, rfl⟩ := List.mem_map.mp hip
    exact trimSpace_eq_self_iff.mpr (trimmed_trimSpace piece)
  rw [trimmedPieces, hsplit, List.map_congr_left hagain, List.map_id']

/-- `ValidateIPAddress` accepts the lists of dotted quads, returns them trimmed, and accepts what it
returned as it is. -/
theorem validateIPAddress_correct (s : String) :
    ((validateIPAddress s).2 = true ↔ ∀ ip ∈ split s ',', IsDottedQuad (trimSpace ip)) ∧
      ((validateIPAddress s).2 = true →
        (validateIPAddress s).1 = join ((split s ',').map trimSpace) "," ∧
          validateIPAddress (validateIPAddress s).1 = ((validateIPAddress s).1, true)) := by
  refine ⟨validateIPAddress_eq s ▸ validateIPs_iff, fun h => ⟨validateIPAddress_fst h, ?_⟩⟩
  have hquads := validateIPAddress_snd_iff.mp h
  rw [validateIPAddress_fst h]
  have hagain : (validateIPAddress (join (trimmedPieces s) ",")).2 = true := by
    rw [validateIPAddress_snd_iff, trimmedPieces_join]
    exact hquads
  have hfst := validateIPAddress_fst hagain
  rw [trimmedPieces_join] at hfst
  exact Prod.ext hfst hagain

end CsmOperator
