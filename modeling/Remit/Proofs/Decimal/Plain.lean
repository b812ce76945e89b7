import Mathlib.Algebra.Order.Field.Rat
import Remit.Decimal.Printer
import Remit.Proofs.Decimal.Numeral
import Remit.Proofs.Decimal.Whole

/-!
# Plain notation

The plain form of a finite decimal is an optional minus, digits, and digits after a point if there
are decimal places (`Decimal.IsPlain`). It is read back as a decimal of the same value: as the one
that was printed, unless that has zeros behind its digits which only its exponent tells of
(`Decimal.spelledOut`, `Decimal.read?_plain`). So decimals of one plain form have one value
(`Decimal.value_eq_of_plain_eq`).

Printing and reading meet at the digits before and behind the point (`Decimal.plainChars_eq`): there
are as many behind it as the decimal has places, and together they are the digits of the
coefficient, up to zeros in front.
-/

namespace Remit.Decimal

open Remit.Text

-- Powers are those of the core library, as in the definitions.
attribute [local instance (high)] instPowNat

/-- A text without characters to trim is left as it is. -/
theorem trimBy_of_forall {p : Char → Bool} {cs : List Char} (h : ∀ c ∈ cs, p c = false) :
    trimBy p cs = cs := by
  have hdrop : ∀ l : List Char, (∀ c ∈ l, p c = false) → l.dropWhile p = l := by
    intro l hl
    cases l with
    | nil => rfl
    | cons c l => rw [List.dropWhile_cons_of_neg (by rw [hl c List.mem_cons_self]; decide)]
  have hreverse : ∀ c ∈ cs.reverse, p c = false := fun c hc => h c (List.mem_reverse.1 hc)
  rw [trimBy, hdrop cs h, hdrop cs.reverse hreverse, List.reverse_reverse]

/-- A text that has no blanks is left as it is by trimming. -/
theorem trim_of_forall {cs : List Char} (h : ∀ c ∈ cs, isBlank c = false) : trim cs = cs :=
  trimBy_of_forall h

/-- Plain notation: an optional minus, digits, and digits after a point if there are places. -/
inductive IsPlain : List Char → Prop where
  | whole {sign ds : List Char} : sign = [] ∨ sign = ['-'] → ds ≠ [] →
      (∀ c ∈ ds, c.isDigit = true) → IsPlain (sign ++ ds)
  | places {sign ds ps : List Char} : sign = [] ∨ sign = ['-'] → ds ≠ [] → ps ≠ [] →
      (∀ c ∈ ds ++ ps, c.isDigit = true) → IsPlain (sign ++ (ds ++ '.' :: ps))

/-- A decimal with the zeros behind its digits as part of its coefficient. -/
def spelledOut : Decimal → Decimal
  | .finite n c e => if 0 < e then .finite n (c * 10 ^ e.toNat) 0 else .finite n c e
  | d => d

/-! ## Rows of digits -/

/-- The value of a digit of the first script. -/
def digitOf (c : Char) : Nat := c.toNat - 48

/-- Digits of the first script are digits. -/
theorem digits_of_isDigit {cs : List Char} (h : ∀ c ∈ cs, c.isDigit = true) :
    Digits cs (cs.map digitOf) := by
  induction cs with
  | nil => exact .nil
  | cons c cs ih =>
    exact .cons (digitValue?_ascii (h c List.mem_cons_self))
      (ih fun c' hc' => h c' (List.mem_cons_of_mem _ hc'))

/-- The number that a row of digits stands for. -/
theorem ofDigits_map_digitOf (cs : List Char) :
    ofDigits (cs.map digitOf) = Nat.ofDigitChars 10 cs 0 := by
  rw [ofDigits, List.foldl_map]
  rfl

/-- A number is what its digits stand for. -/
theorem ofDigits_digits (n : Nat) : ofDigits ((digits n).map digitOf) = n := by
  rw [ofDigits_map_digitOf]
  exact Nat.ofDigitChars_toDigits (by decide) (by decide)

/-- The digits of a number tell the number. -/
theorem digits_injective : Function.Injective digits := fun m n h => by
  rw [← ofDigits_digits m, h, ofDigits_digits]

theorem digits_ne_nil (n : Nat) : digits n ≠ [] := Nat.toDigits_ne_nil

/-- The digits of a number are of the first script … -/
theorem isDigit_of_mem_digits {n : Nat} {c : Char} (h : c ∈ digits n) : c.isDigit = true :=
  Nat.isDigit_of_mem_toDigits (by decide) (by decide) h

/-- … and so are zeros. -/
theorem isDigit_of_mem_zeros {k : Nat} {c : Char} (h : c ∈ List.replicate k '0') :
    c.isDigit = true := by
  rw [List.eq_of_mem_replicate h]
  decide

/-- Zeros in front add nothing. -/
theorem ofDigits_zeros_append (k : Nat) (cs : List Char) :
    ofDigits ((List.replicate k '0' ++ cs).map digitOf) = ofDigits (cs.map digitOf) := by
  induction k with
  | zero => rfl
  | succ k ih =>
    rw [List.replicate_succ, List.cons_append]
    exact ih

/-- Each zero behind the digits multiplies by ten. -/
theorem ofDigits_append_zeros (cs : List Char) (k : Nat) :
    ofDigits ((cs ++ List.replicate k '0').map digitOf) = ofDigits (cs.map digitOf) * 10 ^ k := by
  induction k with
  | zero => simp
  | succ k ih =>
    rw [List.replicate_succ', ← List.append_assoc, List.map_append, ofDigits, List.foldl_append]
    change 10 * ofDigits ((cs ++ List.replicate k '0').map digitOf) + 0 = _
    rw [ih, Nat.pow_succ]
    ring

/-! ## The digits of the plain form -/

/-- A decimal of the given sign is spelled by the digits before its point and those behind it. -/
structure Spelled (n : Bool) (d : Decimal) (whole places : List Char) : Prop where
  isDigit : ∀ c ∈ whole ++ places, c.isDigit = true
  ne_nil : whole ≠ []
  eq : d = .finite n (ofDigits ((whole ++ places).map digitOf)) (-places.length)

/-- Behind the point stand the places, and before it at least one digit. -/
theorem pointed_eq {ds : List Char} (hne : ds ≠ []) (k : Nat) :
    ∃ zeros whole places, pointed ds k = whole ++ (if places = [] then [] else '.' :: places) ∧
      whole ++ places = List.replicate zeros '0' ++ ds ∧ places.length = k ∧ whole ≠ [] := by
  unfold pointed
  split
  · next hk => exact ⟨0, ds, [], by simp, by simp, hk.symm, hne⟩
  · next hk =>
    have hlength : k + 1 ≤ (List.replicate (k + 1 - ds.length) '0' ++ ds).length := by
      rw [List.length_append, List.length_replicate]
      omega
    generalize hpadded : List.replicate (k + 1 - ds.length) '0' ++ ds = padded at hlength
    have hplaces : (padded.drop (padded.length - k)).length = k := by
      rw [List.length_drop]
      omega
    have hsome : padded.drop (padded.length - k) ≠ [] := by
      intro hnil
      rw [hnil] at hplaces
      exact hk hplaces.symm
    refine ⟨k + 1 - ds.length, padded.take (padded.length - k), padded.drop (padded.length - k), ?_,
      (List.take_append_drop _ _).trans hpadded.symm, hplaces, ?_⟩
    · rw [if_neg hsome]
    · intro hnil
      have := congrArg List.length hnil
      rw [List.length_take, List.length_nil] at this
      omega

/-- The digits of a decimal with places are set around the point, with zeros in front. -/
theorem exists_spelled_of_nonpos (n : Bool) (c : Nat) {e : Int} (he : e ≤ 0) :
    ∃ whole places, Spelled n (.finite n c e) whole places ∧
      plainChars (.finite n c e) =
        minus n ++ (whole ++ if places = [] then [] else '.' :: places) := by
  obtain ⟨zeros, whole, places, hpointed, hdigits, hlength, hne⟩ :=
    pointed_eq (digits_ne_nil c) (-e).toNat
  refine ⟨whole, places, ⟨?_, hne, ?_⟩, ?_⟩
  · rw [hdigits]
    intro x hx
    rcases List.mem_append.1 hx with hx | hx
    · exact isDigit_of_mem_zeros hx
    · exact isDigit_of_mem_digits hx
  · rw [hdigits, ofDigits_zeros_append, ofDigits_digits]
    congr 1
    omega
  · rw [plainChars, if_pos he, hpointed]

/-- Zeros are put behind the digits of a decimal that counts a power of ten. -/
theorem exists_spelled_of_pos (n : Bool) (c : Nat) {e : Int} (he : 0 < e) :
    ∃ whole, Spelled n (.finite n (c * 10 ^ e.toNat) 0) whole [] ∧
      plainChars (.finite n c e) = minus n ++ whole := by
  rcases Nat.eq_zero_or_pos c with rfl | hc
  · refine ⟨['0'], ⟨?_, List.cons_ne_nil _ _, ?_⟩, ?_⟩
    · intro x hx
      rw [List.mem_singleton.1 hx]
      decide
    · rw [Nat.zero_mul]
      rfl
    · rw [plainChars, if_neg (by omega), if_pos rfl]
  · refine ⟨digits c ++ List.replicate e.toNat '0', ⟨?_, ?_, ?_⟩, ?_⟩
    · rw [List.append_nil]
      intro x hx
      rcases List.mem_append.1 hx with hx | hx
      · exact isDigit_of_mem_digits hx
      · exact isDigit_of_mem_zeros hx
    · exact List.append_ne_nil_of_left_ne_nil (digits_ne_nil c) _
    · rw [List.append_nil, ofDigits_append_zeros, ofDigits_digits]
      rfl
    · rw [plainChars, if_neg (by omega), if_neg (by omega)]

/-- A decimal whose exponent is not positive has its zeros spelled out as it is. -/
theorem spelledOut_of_nonpos {n : Bool} {c : Nat} {e : Int} (he : e ≤ 0) :
    spelledOut (.finite n c e) = .finite n c e := by
  rw [spelledOut, if_neg (by omega)]

/-- The plain form of a finite decimal, by its digits. -/
theorem plainChars_eq (n : Bool) (c : Nat) (e : Int) :
    ∃ whole places, Spelled n (spelledOut (.finite n c e)) whole places ∧
      plainChars (.finite n c e) =
        minus n ++ (whole ++ if places = [] then [] else '.' :: places) := by
  by_cases he : e ≤ 0
  · rw [spelledOut_of_nonpos he]
    exact exists_spelled_of_nonpos n c he
  · obtain ⟨whole, hspelled, hplain⟩ := exists_spelled_of_pos n c (Int.not_le.1 he)
    refine ⟨whole, [], ?_, ?_⟩
    · rw [spelledOut, if_pos (Int.not_le.1 he)]
      exact hspelled
    · rw [hplain, if_pos rfl, List.append_nil]

/-- The plain form is plain notation. -/
theorem isPlain_plain {d : Decimal} (hd : d.isFinite = true) : IsPlain d.plain.toList := by
  obtain ⟨n, c, e, rfl⟩ := isFinite_iff.1 hd
  obtain ⟨whole, places, hspelled, hplain⟩ := plainChars_eq n c e
  have hsign : minus n = [] ∨ minus n = ['-'] := by cases n <;> simp [minus]
  rw [plain, String.toList_ofList, hplain]
  split
  · next hnil =>
    subst hnil
    rw [List.append_nil]
    exact .whole hsign hspelled.ne_nil (by simpa using hspelled.isDigit)
  · next hne => exact .places hsign hspelled.ne_nil hne hspelled.isDigit

/-! ## Reading the plain form -/

/-- Spelling out the zeros of a decimal does not change its value … -/
theorem value_spelledOut (d : Decimal) : d.spelledOut.value = d.value := by
  cases d with
  | finite n c e =>
    rw [spelledOut]
    split
    · next he =>
      have hmagnitude : magnitude (c * 10 ^ e.toNat) 0 = magnitude c e := by
        rw [magnitude_eq_scaled c he.le, scaled, sub_zero, magnitude]
      simp only [value, hmagnitude]
    · rfl
  | infinite n => rfl
  | nan n signaling payload => rfl

/-- … and the decimal stays representable. -/
theorem IsRepresentable.spelledOut {d : Decimal} (h : d.IsRepresentable) :
    d.spelledOut.IsRepresentable := by
  cases d with
  | finite n c e =>
    rw [Decimal.spelledOut]
    split
    · next he =>
      rcases Nat.eq_zero_or_pos c with rfl | hc
      · rw [Nat.zero_mul]
        rfl
      · have hcount : digitCount (c * 10 ^ e.toNat) ≤ digitCount c + e.toNat := by
          have hpos : 0 < digitCount c := Nat.length_toDigits_pos
          rw [digitCount_le_iff (by omega), Nat.pow_add]
          exact Nat.mul_lt_mul_of_pos_right ((digitCount_le_iff hpos).1 le_rfl) (by positivity)
        have hne : c * 10 ^ e.toNat ≠ 0 := Nat.mul_ne_zero (by omega) (by positivity)
        simp only [IsRepresentable, inRange, if_neg hne, if_neg (show c ≠ 0 by omega),
          Bool.and_eq_true, decide_eq_true_eq] at h ⊢
        refine ⟨by decide, ?_⟩
        unfold adjusted at h ⊢
        omega
    · exact h
  | infinite n => trivial
  | nan n signaling payload => trivial

/-- A representable decimal with the zeros behind its digits as part of its coefficient. -/
def Representable.spelledOut (d : Representable) : Representable :=
  ⟨d.val.spelledOut, d.property.spelledOut⟩

/-- The characters of plain notation. -/
theorem IsPlain.char {cs : List Char} (h : IsPlain cs) {c : Char} (hc : c ∈ cs) :
    c.isDigit = true ∨ c = '-' ∨ c = '.' := by
  have hminus : ∀ {sign : List Char}, sign = [] ∨ sign = ['-'] → c ∈ sign → c = '-' := by
    rintro sign (rfl | rfl) hm
    · cases hm
    · exact List.mem_singleton.1 hm
  cases h with
  | whole hsign _ hds =>
    rcases List.mem_append.1 hc with hc | hc
    · exact .inr (.inl (hminus hsign hc))
    · exact .inl (hds c hc)
  | places hsign _ _ hds =>
    rcases List.mem_append.1 hc with hc | hc
    · exact .inr (.inl (hminus hsign hc))
    rcases List.mem_append.1 hc with hc | hc
    · exact .inl (hds c (List.mem_append_left _ hc))
    rcases List.mem_cons.1 hc with rfl | hc
    · exact .inr (.inr rfl)
    · exact .inl (hds c (List.mem_append_right _ hc))

/-- Plain notation is read as it stands: it has no blanks around it and no underscores in it. -/
theorem IsPlain.trim_filter {cs : List Char} (h : IsPlain cs) :
    (trim cs).filter (· != '_') = cs := by
  have hblank : ∀ c ∈ cs, isBlank c = false := by
    intro c hc
    rcases h.char hc with hdigit | rfl | rfl
    · have hrange : 48 ≤ c.toNat ∧ c.toNat ≤ 57 := by
        simpa [Char.isDigit, UInt32.le_iff_toNat_le] using hdigit
      simp [isBlank]
      omega
    · decide
    · decide
  have hkept : ∀ c ∈ cs, (c != '_') = true := by
    intro c hc
    rcases h.char hc with hdigit | rfl | rfl
    · rw [bne_iff_ne]
      rintro rfl
      exact absurd hdigit (by decide)
    · decide
    · decide
  rw [trim_of_forall hblank, List.filter_eq_self.2 hkept]

/-- What spells a representable decimal is a numeral of it. -/
theorem Spelled.numeral {n : Bool} {d : Decimal} {whole places : List Char}
    (h : Spelled n d whole places) (hrep : d.IsRepresentable) :
    Numeral (minus n ++ (whole ++ if places = [] then [] else '.' :: places)) d := by
  obtain ⟨hdigit, hne, rfl⟩ := h
  have hsign : Sign (minus n) n := by
    cases n
    · exact .unsigned
    · exact .minus
  have hwhole := digits_of_isDigit fun c hc => hdigit c (List.mem_append_left _ hc)
  have hplaces := digits_of_isDigit fun c hc => hdigit c (List.mem_append_right _ hc)
  have hfraction : Fraction (if places = [] then [] else '.' :: places) (places.map digitOf) := by
    split
    · next hnil =>
      subst hnil
      exact .whole
    · exact .point hplaces
  have hsome : whole.map digitOf ++ places.map digitOf ≠ [] := by
    rw [← List.map_append]
    intro hnil
    exact hne (List.append_eq_nil_iff.1 (List.map_eq_nil_iff.1 hnil)).1
  have hexponent : (0 : Int) - (places.map digitOf).length = -places.length := by
    rw [List.length_map, zero_sub]
  have hnumeral := Numeral.mk hsign hwhole hfraction .one hsome
    (by rw [hexponent, ← List.map_append]; exact hrep)
  rwa [hexponent, ← List.map_append, List.append_nil] at hnumeral

/-- The plain form is read as the decimal with the zeros behind its digits spelled out. -/
theorem read?_plain {d : Representable} (hd : d.val.isFinite = true) :
    read? d.val.plain = some d.spelledOut := by
  have hplain := isPlain_plain hd
  obtain ⟨d, hrep⟩ := d
  obtain ⟨n, c, e, rfl⟩ := isFinite_iff.1 hd
  obtain ⟨whole, places, hspelled, hchars⟩ := plainChars_eq n c e
  refine (read?_eq_some_iff.2 ?_).1
  rw [hplain.trim_filter, plain, String.toList_ofList, hchars]
  exact hspelled.numeral hrep.spelledOut

/-- A finite decimal stays finite with its zeros spelled out. -/
theorem isFinite_spelledOut {d : Decimal} (hd : d.isFinite = true) :
    d.spelledOut.isFinite = true := by
  obtain ⟨n, c, e, rfl⟩ := isFinite_iff.1 hd
  rw [spelledOut]
  split <;> rfl

/-- Decimals of one plain form have one value. -/
theorem value_eq_of_plain_eq {d d' : Representable} (hd : d.val.isFinite = true)
    (hd' : d'.val.isFinite = true) (h : d.val.plain = d'.val.plain) :
    d.val.value = d'.val.value := by
  have hread := read?_plain hd
  rw [h, read?_plain hd'] at hread
  have hspelled : d'.val.spelledOut = d.val.spelledOut :=
    congrArg Subtype.val (Option.some.inj hread)
  rw [← value_spelledOut d.val, ← value_spelledOut d'.val, hspelled]

end Remit.Decimal
