import Remit.Json.Reader
import Remit.Proofs.Json.Characters
import Remit.Proofs.Text.Integer

/-!
# Reading what was written: texts and numbers

A text is read back escape by escape (`string?_chars`), a whole number digit by digit
(`number?_toDigits`). Each lemma reads from the front of a longer text. A number goes on as long as
digits follow, so that it is read back only in front of what may follow a value (`Ends`); `Reads`
says so for the values that are read in one step and for arrays and objects alike.
-/

namespace Remit.Json

open Remit.Text

/-! ## Escapes -/

/-- A hexadecimal digit is read as its value. -/
theorem hexDigit?_digitChar {n : Nat} (h : n < 16) : hexDigit? (Nat.digitChar n) = some n := by
  have hall : ∀ d : Fin 16, hexDigit? (Nat.digitChar d) = some d.val := by decide
  exact hall ⟨n, h⟩

/-- Four hexadecimal digits are read back. -/
theorem hex4?_hex {n : Nat} (h : n < 0x10000) (cs : List Char) :
    hex4? (hex 4 n ++ cs) = some (n, cs) := by
  have hdigit (m : Nat) : hexDigit? (Nat.digitChar (m % 16)) = some (m % 16) :=
    hexDigit?_digitChar (Nat.mod_lt m (by decide))
  rw [hex_four h]
  simp only [List.cons_append, List.nil_append, hex4?,
    hexDigit?_digitChar (show n / 16 / 16 / 16 < 16 by omega), hdigit, Option.bind_eq_bind,
    Option.bind_some]
  have hn : (n / 16 / 16 / 16 * 16 + n / 16 / 16 % 16) * 256 + (n / 16 % 16 * 16 + n % 16) = n := by
    omega
  rw [hn]

/-- A number that is no surrogate is read as its character. -/
theorem escape?_hex {n : Nat} (hn : n < 0x10000) (h : n < 0xD800 ∨ 0xDFFF < n) (cs : List Char) :
    escape? (hex 4 n ++ cs) = some (Char.ofNat n, cs) := by
  simp only [escape?, hex4?_hex hn, Option.bind_eq_bind, Option.bind_some]
  rw [if_neg (by omega), if_neg (by omega)]

/-- Two surrogates are read as the character that they stand for together. -/
theorem escape?_surrogates {m n : Nat} (hm : 0xD800 ≤ m ∧ m < 0xDC00)
    (hn : 0xDC00 ≤ n ∧ n < 0xE000) (cs : List Char) :
    escape? (hex 4 m ++ '\\' :: 'u' :: (hex 4 n ++ cs)) =
      some (Char.ofNat (0x10000 + (m - 0xD800) * 0x400 + (n - 0xDC00)), cs) := by
  have hm' : m < 0x10000 := by omega
  have hn' : n < 0x10000 := by omega
  simp only [escape?, hex4?_hex hm', hex4?_hex hn', Option.bind_eq_bind, Option.bind_some]
  rw [if_pos hm, if_pos hn]

/-- A character is read back from its escape. -/
theorem escape?_escapePoint (c : Char) (cs : List Char) :
    ∃ ds, escapePoint c.toNat = '\\' :: 'u' :: ds ∧ escape? (ds ++ cs) = some (c, cs) := by
  have hcases := toNat_cases c
  have hc : Char.ofNat c.toNat = c := Char.ofNat_toNat c
  generalize c.toNat = n at hcases hc
  by_cases hn : n < 0x10000
  · refine ⟨hex 4 n, by rw [escapePoint, if_pos hn], ?_⟩
    rw [escape?_hex hn (by omega), hc]
  · refine ⟨hex 4 (0xD800 + (n - 0x10000) / 0x400) ++
      '\\' :: 'u' :: hex 4 (0xDC00 + (n - 0x10000) % 0x400), ?_, ?_⟩
    · rw [escapePoint, if_neg hn, List.cons_append, List.cons_append]
    · have hback : 0x10000 + (0xD800 + (n - 0x10000) / 0x400 - 0xD800) * 0x400 +
          (0xDC00 + (n - 0x10000) % 0x400 - 0xDC00) = n := by
        omega
      rw [List.append_assoc, List.cons_append, List.cons_append,
        escape?_surrogates (by omega) (by omega), hback, hc]

/-! ## Strings -/

/-- A character of a string is read back. -/
theorem chars?_escapeChar (fuel : Nat) (c : Char) (cs : List Char) :
    chars? (fuel + 1) (escapeChar c ++ cs) = (chars? fuel cs).map fun r => (c :: r.1, r.2) := by
  have hmap : ((chars? fuel cs).bind fun r => some (c :: r.1, r.2)) =
      (chars? fuel cs).map fun r => (c :: r.1, r.2) := by
    cases chars? fuel cs <;> rfl
  have hletter {l : Char} (hl : l ≠ 'u') (h : letterEscape? l = some c) :
      chars? (fuel + 1) ('\\' :: l :: cs) = (chars? fuel cs).map fun r => (c :: r.1, r.2) := by
    rw [chars?.eq_def, ← hmap]
    simp [h]
  unfold escapeChar
  split_ifs with h1 h2 h3 h4 h5 h6 h7 hplain
  · exact hletter (by decide) (by rw [h1]; rfl)
  · exact hletter (by decide) (by rw [h2]; rfl)
  · exact hletter (by decide) (by rw [h3]; rfl)
  · exact hletter (by decide) (by rw [h4]; rfl)
  · exact hletter (by decide) (by rw [h5]; rfl)
  · exact hletter (by decide) (by rw [h6]; rfl)
  · exact hletter (by decide) (by rw [h7]; rfl)
  · rw [← hmap, List.cons_append, List.nil_append, chars?.eq_def]
    simp only [h1, h2, if_false]
    rw [if_neg (by omega)]
    rfl
  · obtain ⟨ds, hds, hescape⟩ := escape?_escapePoint c cs
    rw [← hmap, hds, List.cons_append, List.cons_append, chars?.eq_def]
    simp [hescape]

/-- The characters of a string are read back up to its closing quote. -/
theorem chars?_flatMap {fuel : Nat} {cs : List Char} (h : cs.length < fuel) (rest : List Char) :
    chars? fuel (cs.flatMap escapeChar ++ '"' :: rest) = some (cs, rest) := by
  induction cs generalizing fuel with
  | nil =>
    obtain ⟨fuel, rfl⟩ := Nat.exists_eq_add_one_of_ne_zero (Nat.ne_zero_of_lt h)
    rfl
  | cons c cs ih =>
    obtain ⟨fuel, rfl⟩ := Nat.exists_eq_add_one_of_ne_zero (Nat.ne_zero_of_lt h)
    rw [List.flatMap_cons, List.append_assoc, chars?_escapeChar, ih (by simpa using h)]
    rfl

/-- A character is never written as nothing. -/
theorem escapeChar_ne_nil (c : Char) : escapeChar c ≠ [] := by
  obtain ⟨ds, hds, -⟩ := escape?_escapePoint c []
  unfold escapeChar
  split_ifs
  iterate 8 exact List.cons_ne_nil _ _
  rw [hds]
  exact List.cons_ne_nil _ _

/-- Escaping does not make a text shorter, so there is fuel to read it. -/
theorem length_le_flatMap_escapeChar (cs : List Char) :
    cs.length ≤ (cs.flatMap escapeChar).length := by
  induction cs with
  | nil => exact Nat.le_refl _
  | cons c cs ih =>
    have := List.length_pos_of_ne_nil (escapeChar_ne_nil c)
    rw [List.flatMap_cons, List.length_append, List.length_cons]
    omega

/-- A string is read back, behind its opening quote. -/
theorem string?_chars (s : String) (rest : List Char) :
    string? (s.toList.flatMap escapeChar ++ '"' :: rest) = some (s, rest) := by
  have := length_le_flatMap_escapeChar s.toList
  rw [string?, chars?_flatMap (by rw [List.length_append]; omega), Option.map_some,
    String.ofList_toList]

/-- A written string is an opening quote, the escaped characters and a closing quote. -/
theorem toList_string (s : String) (rest : List Char) :
    (string s).toList ++ rest = '"' :: (s.toList.flatMap escapeChar ++ '"' :: rest) := by
  rw [string, String.toList_ofList, List.cons_append, List.cons_append, List.append_assoc,
    List.singleton_append]

/-! ## Numbers -/

/-- Whether a text may follow a value. -/
def Ends (rest : List Char) : Prop := ∀ c ∈ rest.head?, c = ',' ∨ c = ']' ∨ c = '\x7d'

variable {rest : List Char}

theorem Ends.nil : Ends [] := nofun

/-- What follows a member of a collection may follow a value. -/
theorem Ends.cons {c : Char} (h : c = ',' ∨ c = ']' ∨ c = '\x7d') : Ends (c :: rest) := by
  rintro _ ⟨⟩
  exact h

/-- No number goes on where a value ends. -/
theorem Ends.takeWhile_isDigit (h : Ends rest) :
    rest.takeWhile Char.isDigit = [] ∧ rest.dropWhile Char.isDigit = rest := by
  cases rest with
  | nil => exact ⟨rfl, rfl⟩
  | cons c rest =>
    rcases h c rfl with rfl | rfl | rfl <;> exact ⟨rfl, rfl⟩

/-- Where a number ends there is no fraction … -/
theorem Ends.fraction (h : Ends rest) : fraction rest = ([], rest) := by
  cases rest with
  | nil => rfl
  | cons c rest => rcases h c rfl with rfl | rfl | rfl <;> rfl

/-- … and no exponent. -/
theorem Ends.exponent (h : Ends rest) : exponent rest = (none, rest) := by
  cases rest with
  | nil => rfl
  | cons c rest => rcases h c rfl with rfl | rfl | rfl <;> rfl

/-- The first digit of a number above zero is not zero. -/
theorem head?_toDigits {n : Nat} (h : 0 < n) : (Nat.toDigits 10 n).head? ≠ some '0' := by
  induction n using Nat.strongRecOn with
  | _ n ih =>
    by_cases hn : n < 10
    · have hall : ∀ d : Fin 10, d.val ≠ 0 → Nat.digitChar d ≠ '0' := by decide
      rw [Nat.toDigits_of_lt_base hn, List.head?_cons]
      exact fun h0 => hall ⟨n, hn⟩ (by simpa using Nat.ne_of_gt h) (Option.some.inj h0)
    · have happend := Nat.toDigits_append_toDigits (b := 10) (n := n / 10) (d := n % 10)
        (by decide) (by omega) (Nat.mod_lt n (by decide))
      rw [Nat.div_add_mod] at happend
      rw [← happend, List.head?_append_of_ne_nil _ Nat.toDigits_ne_nil]
      exact ih (n / 10) (by omega) (by omega)

/-- A number is read back, behind its sign. -/
theorem number?_toDigits (negative : Bool) (n : Nat) (h : Ends rest) :
    number? negative (Nat.toDigits 10 n ++ rest) = some (.int (signed negative n), rest) := by
  have hdigit : ∀ c ∈ Nat.toDigits 10 n, c.isDigit = true := fun _ =>
    Nat.isDigit_of_mem_toDigits (by decide) (by decide)
  have hdigits : digits (Nat.toDigits 10 n ++ rest) =
      ((Nat.toDigits 10 n).map fun c => c.toNat - 48, rest) := by
    rw [digits, List.takeWhile_append_of_pos hdigit, List.dropWhile_append_of_pos hdigit,
      h.takeWhile_isDigit.1, h.takeWhile_isDigit.2, List.append_nil]
  have hvalue : ofDigits ((Nat.toDigits 10 n).map fun c => c.toNat - 48) = n :=
    Decimal.ofDigits_digits n
  by_cases hn : n = 0
  · subst hn
    rw [Nat.toDigits_zero, List.singleton_append, number?]
    simp only [h.fraction, h.exponent]
    rfl
  · have hhead := head?_toDigits (Nat.pos_of_ne_zero hn)
    obtain ⟨c, cs, hcs⟩ := List.exists_cons_of_ne_nil (Nat.toDigits_ne_nil (b := 10) (n := n))
    rw [hcs] at hhead hdigits hvalue ⊢
    have hc : c ≠ '0' := fun h0 => hhead (congrArg some h0)
    rw [number?, hdigits]
    · simp only [h.fraction, h.exponent, hvalue]
      rfl
    · exact fun _ h0 => hc (List.cons.inj h0).1

/-- The text of a whole number that has one. -/
theorem int_eq_ok {i : Int} {s : String} (h : int i = .ok s) : s = toString i := by
  unfold int intText? at h
  by_cases hi : IsShort i
  · rw [if_pos hi] at h
    exact (Except.ok.inj h).symm
  · rw [if_neg hi] at h
    cases h

/-! ## Scalars -/

/-- A text starts a value: with none of the characters that may stand in front of a value or close a
collection. -/
def Starts (cs : List Char) : Prop :=
  ∃ c cs', cs = c :: cs' ∧ isSpace c = false ∧ c ≠ ']' ∧ c ≠ '\x7d'

/-- A text is read as a value, whatever follows that may follow a value. -/
def Reads (cs : List Char) (v : Value) : Prop :=
  ∀ fuel rest, cs.length < fuel → Ends rest → value? fuel (cs ++ rest) = some (v, rest)

/-- What is neither an array nor an object is read in one step. -/
theorem reads_of_scalar? {c : Char} {cs : List Char} {v : Value} (harray : c ≠ '[')
    (hobject : c ≠ '\x7b') (h : ∀ rest, Ends rest → scalar? (c :: cs ++ rest) = some (v, rest)) :
    Reads (c :: cs) v := by
  intro fuel rest hfuel hrest
  obtain ⟨fuel, rfl⟩ := Nat.exists_eq_add_one_of_ne_zero (Nat.ne_zero_of_lt hfuel)
  rw [← h rest hrest, List.cons_append, value?]
  · exact fun _ h0 => harray (List.cons.inj h0).1
  · exact fun _ h0 => hobject (List.cons.inj h0).1

theorem reads_null : Reads "null".toList .null :=
  reads_of_scalar? (by decide) (by decide) fun _ _ => rfl

/-- A truth value is read back. -/
theorem reads_bool (b : Bool) : Reads (if b then "true" else "false").toList (.bool b) := by
  cases b <;> exact reads_of_scalar? (by decide) (by decide) fun _ _ => rfl

/-- A text is read back, whatever characters it has. -/
theorem reads_string (s : String) : Reads (string s).toList (.text s) := by
  have hs := toList_string s []
  rw [List.append_nil] at hs
  rw [hs]
  refine reads_of_scalar? (by decide) (by decide) fun rest _ => ?_
  rw [← hs, toList_string, scalar?, string?_chars]
  rfl

/-- A digit starts a number. -/
theorem scalar?_of_isDigit {c : Char} (hc : c.isDigit = true) (cs : List Char) :
    scalar? (c :: cs) = number? false (c :: cs) := by
  rw [scalar?]
  all_goals
    intro _ h0
    obtain ⟨rfl, -⟩ := List.cons.inj h0
    revert hc
    decide

/-- A whole number that is short enough to be read is read back. -/
theorem reads_int (i : Int) : Reads (toString i).toList (.int i) := by
  obtain ⟨c, cs, hcs, hc⟩ := exists_toDigits i.natAbs
  rw [toList_toString, hcs]
  by_cases hi : 0 ≤ i
  · have hsign : signed false i.natAbs = i := Int.natAbs_of_nonneg hi
    rw [if_pos hi, List.nil_append]
    refine reads_of_scalar? ?_ ?_ fun rest hrest => ?_
    · rintro rfl
      cases hc
    · rintro rfl
      cases hc
    · rw [List.cons_append, scalar?_of_isDigit hc, ← List.cons_append, ← hcs,
        number?_toDigits _ _ hrest, hsign]
  · have hsign : signed true i.natAbs = i := by
      rw [signed, if_pos rfl]
      omega
    rw [if_neg hi, List.singleton_append]
    refine reads_of_scalar? (by decide) (by decide) fun rest hrest => ?_
    rw [List.cons_append, ← hcs, scalar?, number?_toDigits _ _ hrest, hsign]
    intro _ h0
    rw [hcs] at h0
    obtain ⟨rfl, -⟩ := List.cons.inj h0
    cases hc

/-- A text starts with a quotation mark. -/
theorem starts_string (s : String) : Starts (string s).toList := by
  have hs := toList_string s []
  rw [List.append_nil] at hs
  exact ⟨_, _, hs, by decide, by decide, by decide⟩

/-- A whole number starts with a digit or a minus. -/
theorem starts_int (i : Int) : Starts (toString i).toList := by
  obtain ⟨c, cs, hcs, hc⟩ := exists_toDigits i.natAbs
  rw [toList_toString, hcs]
  by_cases hi : 0 ≤ i
  · rw [if_pos hi, List.nil_append]
    refine ⟨c, cs, rfl, ?_, ?_, ?_⟩
    · cases hspace : isSpace c with
      | false => rfl
      | true =>
        simp only [isSpace, Bool.or_eq_true, decide_eq_true_eq] at hspace
        rcases hspace with ((rfl | rfl) | rfl) | rfl <;> cases hc
    · rintro rfl
      cases hc
    · rintro rfl
      cases hc
  · rw [if_neg hi]
    exact ⟨'-', _, rfl, by decide, by decide, by decide⟩

end Remit.Json
