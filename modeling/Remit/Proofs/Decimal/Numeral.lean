import Mathlib.Data.List.Forall2
import Remit.Decimal.Reader

/-!
# Which texts are numbers

The grammar of the texts that are read as finite decimals (`Decimal.Numeral`), told apart from how
they are read: a sign, digits of any script around at most one point, and a power of ten. The reader
accepts exactly these texts, with blanks around them and underscores anywhere in them, and reads
them as the number that the grammar gives them (`Decimal.read?_eq_some_iff`).
-/

namespace Remit.Decimal

open Remit.Text

/-! ## The grammar -/

/-- An optional sign, and whether it is a minus. -/
inductive Sign : List Char → Bool → Prop where
  | unsigned : Sign [] false
  | plus : Sign ['+'] false
  | minus : Sign ['-'] true

/-- A row of digits and their values. -/
abbrev Digits (cs : List Char) (ds : List Nat) : Prop :=
  List.Forall₂ (fun c d => digitValue? c = some d) cs ds

/-- The optional digits behind a point. -/
inductive Fraction : List Char → List Nat → Prop where
  | whole : Fraction [] []
  | point {cs : List Char} {ds : List Nat} : Digits cs ds → Fraction ('.' :: cs) ds

/-- An optional power of ten. -/
inductive Exponent : List Char → Int → Prop where
  | one : Exponent [] 0
  | power {c : Char} {sign cs : List Char} {negative : Bool} {ds : List Nat} :
      c = 'e' ∨ c = 'E' → Sign sign negative → Digits cs ds → ds ≠ [] →
      Exponent (c :: (sign ++ cs)) (signed negative (ofDigits ds))

/-- A text of a finite decimal: it has a digit before or behind the point, and the number is
representable. -/
inductive Numeral : List Char → Decimal → Prop where
  | mk {sign whole fraction exponent : List Char} {negative : Bool} {ws fs : List Nat} {e : Int} :
      Sign sign negative → Digits whole ws → Fraction fraction fs → Exponent exponent e →
      ws ++ fs ≠ [] → inRange (ofDigits (ws ++ fs)) (e - fs.length) = true →
      Numeral (sign ++ (whole ++ (fraction ++ exponent)))
        (.finite negative (ofDigits (ws ++ fs)) (e - fs.length))

/-- What a numeral stands for is representable. -/
theorem Numeral.isRepresentable {cs : List Char} {d : Decimal} (h : Numeral cs d) :
    d.IsRepresentable := by
  obtain ⟨-, -, -, -, -, hrange⟩ := h
  exact hrange

/-! ## Reading -/

/-- A text that does not go on with a digit. -/
def NoDigit (cs : List Char) : Prop := ∀ c rest, cs = c :: rest → digitValue? c = none

theorem noDigit_nil : NoDigit [] := nofun

theorem noDigit_cons {c : Char} {cs : List Char} (h : digitValue? c = none) :
    NoDigit (c :: cs) := by
  rintro c' rest hcs
  cases hcs
  exact h

/-- The digits in front of a text that goes on with none are taken. -/
theorem takeDigits_append {cs rest : List Char} {ds : List Nat} (h : Digits cs ds)
    (hrest : NoDigit rest) : takeDigits (cs ++ rest) = (ds, rest) := by
  induction h with
  | nil =>
    cases rest with
    | nil => rfl
    | cons c rest => simp [takeDigits, hrest c rest rfl]
  | cons hc _ ih => simp [takeDigits, hc, ih]

/-- What is taken are the digits in front. -/
theorem takeDigits_spec (cs : List Char) :
    ∃ front ds rest, takeDigits cs = (ds, rest) ∧ cs = front ++ rest ∧ Digits front ds := by
  induction cs with
  | nil => exact ⟨[], [], [], rfl, rfl, .nil⟩
  | cons c cs ih =>
    cases hc : digitValue? c with
    | none => exact ⟨[], [], c :: cs, by simp [takeDigits, hc], rfl, .nil⟩
    | some d =>
      obtain ⟨front, ds, rest, htaken, rfl, hfront⟩ := ih
      exact ⟨c :: front, d :: ds, rest, by simp [takeDigits, hc, htaken], rfl, .cons hc hfront⟩

/-- What is taken as a sign is one. -/
theorem takeSign_spec (cs : List Char) :
    ∃ sign negative rest, takeSign cs = (negative, rest) ∧ cs = sign ++ rest ∧
      Sign sign negative := by
  unfold takeSign
  split
  · exact ⟨['-'], _, _, rfl, rfl, .minus⟩
  · exact ⟨['+'], _, _, rfl, rfl, .plus⟩
  · exact ⟨[], _, _, rfl, rfl, .unsigned⟩

/-- The sign in front of a text that goes on with none is taken. -/
theorem takeSign_append {sign rest : List Char} {negative : Bool} (h : Sign sign negative)
    (hrest : ∀ c cs, rest = c :: cs → c ≠ '-' ∧ c ≠ '+') :
    takeSign (sign ++ rest) = (negative, rest) := by
  cases h with
  | plus => rfl
  | minus => rfl
  | unsigned =>
    rw [List.nil_append]
    unfold takeSign
    split
    · exact absurd rfl (hrest _ _ rfl).1
    · exact absurd rfl (hrest _ _ rfl).2
    · rfl

/-- A digit is no sign. -/
theorem ne_sign_of_digit {c : Char} {d : Nat} (h : digitValue? c = some d) : c ≠ '-' ∧ c ≠ '+' := by
  have hminus : digitValue? '-' = none := by decide
  have hplus : digitValue? '+' = none := by decide
  constructor <;> rintro rfl <;> simp_all

/-- The power of ten is read exactly if it is one. -/
theorem readExponent?_eq_some_iff {cs : List Char} {e : Int} :
    readExponent? cs = some e ↔ Exponent cs e := by
  constructor
  · intro h
    cases cs with
    | nil =>
      cases h
      exact .one
    | cons c cs =>
      obtain ⟨sign, negative, unsigned, hsign, rfl, hs⟩ := takeSign_spec cs
      obtain ⟨front, ds, rest, htaken, rfl, hds⟩ := takeDigits_spec unsigned
      simp only [readExponent?, hsign, htaken] at h
      split at h
      · next hc =>
        split at h
        · cases h
        · next hne heq =>
          cases heq
          cases h
          rw [List.append_nil]
          exact .power hc hs hds fun hnil => hne hnil
        · cases h
      · cases h
  · intro h
    cases h with
    | one => rfl
    | @power c sign cs negative ds hc hs hds hne =>
      have hsign : takeSign (sign ++ cs) = (negative, cs) := by
        refine takeSign_append hs ?_
        rintro c' cs' rfl
        cases hds with
        | cons hc' _ => exact ne_sign_of_digit hc'
      have htaken : takeDigits cs = (ds, []) := by
        simpa using takeDigits_append hds noDigit_nil
      cases ds with
      | nil => exact absurd rfl hne
      | cons d ds => simp only [readExponent?, hc, if_true, hsign, htaken]

/-- A power of ten starts with no digit, sign or point. -/
theorem Exponent.noDigit {cs : List Char} {e : Int} (h : Exponent cs e) : NoDigit cs := by
  cases h with
  | one => exact noDigit_nil
  | power hc _ _ _ => exact noDigit_cons (by rcases hc with rfl | rfl <;> decide)

/-- There are no decimal places in front of a power of ten. -/
theorem takeFraction_of_exponent {cs : List Char} {e : Int} (h : Exponent cs e) :
    takeFraction cs = ([], cs) := by
  cases h with
  | one => rfl
  | power hc _ _ _ => rcases hc with rfl | rfl <;> rfl

/-- The decimal places in front of a power of ten are taken. -/
theorem takeFraction_append {cs rest : List Char} {ds : List Nat} {e : Int} (h : Fraction cs ds)
    (hrest : Exponent rest e) : takeFraction (cs ++ rest) = (ds, rest) := by
  cases h with
  | whole => exact takeFraction_of_exponent hrest
  | point hds => exact takeDigits_append hds hrest.noDigit

/-- What is taken as decimal places are such. -/
theorem takeFraction_spec (cs : List Char) :
    ∃ front ds rest, takeFraction cs = (ds, rest) ∧ cs = front ++ rest ∧ Fraction front ds := by
  unfold takeFraction
  split
  · next cs =>
    obtain ⟨front, ds, rest, htaken, rfl, hfront⟩ := takeDigits_spec cs
    exact ⟨'.' :: front, ds, rest, htaken, rfl, .point hfront⟩
  · exact ⟨[], [], _, rfl, rfl, .whole⟩

/-- What follows the digits before the point goes on with no digit. -/
theorem Fraction.noDigit {cs rest : List Char} {ds : List Nat} {e : Int} (h : Fraction cs ds)
    (hrest : Exponent rest e) : NoDigit (cs ++ rest) := by
  cases h with
  | whole => exact hrest.noDigit
  | point _ => exact noDigit_cons (by decide)

/-- A number without its sign is read … -/
theorem readFinite?_append {whole fraction exponent : List Char} {ws fs : List Nat} {e : Int}
    (negative : Bool) (hwhole : Digits whole ws) (hfraction : Fraction fraction fs)
    (hexponent : Exponent exponent e) (hne : ws ++ fs ≠ [])
    (hrange : inRange (ofDigits (ws ++ fs)) (e - fs.length) = true) :
    readFinite? negative (whole ++ (fraction ++ exponent)) =
      some ⟨.finite negative (ofDigits (ws ++ fs)) (e - fs.length), hrange⟩ := by
  have hw := takeDigits_append hwhole (hfraction.noDigit hexponent)
  have hf := takeFraction_append hfraction hexponent
  have he := readExponent?_eq_some_iff.2 hexponent
  simp only [readFinite?, hw, hf, he]
  rw [if_neg (by simpa using hne)]
  simp [hrange]

/-- … and nothing else is. -/
theorem numeral_of_readFinite? {sign cs : List Char} {negative : Bool} {d : Representable}
    (hsign : Sign sign negative) (h : readFinite? negative cs = some d) :
    Numeral (sign ++ cs) d := by
  obtain ⟨whole, ws, rest, hw, rfl, hwhole⟩ := takeDigits_spec cs
  obtain ⟨fraction, fs, exponent, hf, rfl, hfraction⟩ := takeFraction_spec rest
  simp only [readFinite?, hw, hf] at h
  split at h
  · cases h
  · next hne =>
    simp only [Option.bind_eq_bind, Option.bind_eq_some_iff] at h
    obtain ⟨e, he, h⟩ := h
    split at h
    · next hrange =>
      cases h
      exact .mk hsign hwhole hfraction (readExponent?_eq_some_iff.1 he) (by simpa using hne) hrange
    · cases h

/-- A number without its sign starts with no sign. -/
theorem not_sign_of_digits {whole fraction exponent : List Char} {ws fs : List Nat} {e : Int}
    (hwhole : Digits whole ws) (hfraction : Fraction fraction fs)
    (hexponent : Exponent exponent e) :
    ∀ c cs, whole ++ (fraction ++ exponent) = c :: cs → c ≠ '-' ∧ c ≠ '+' := by
  rintro c cs h
  cases hwhole with
  | cons hc _ =>
    cases h
    exact ne_sign_of_digit hc
  | nil =>
    cases hfraction with
    | point _ =>
      cases h
      decide
    | whole =>
      cases hexponent with
      | one => cases h
      | power hc _ _ _ =>
        cases h
        rcases hc with rfl | rfl <;> decide

/-- What is named is not a finite number. -/
theorem isFinite_of_readNamed? {negative : Bool} {cs : List Char} {d : Representable}
    (h : readNamed? negative cs = some d) : d.val.isFinite = false := by
  have hpayload : ∀ signaling ds, readPayload? negative signaling ds = some d →
      d.val.isFinite = false := by
    intro signaling ds h
    unfold readPayload? at h
    split at h <;> cases h
    rfl
  unfold readNamed? at h
  split at h
  · cases h
    rfl
  · cases h
    rfl
  · exact hpayload _ _ h
  · exact hpayload _ _ h
  · cases h

/-- The texts that are read as finite decimals are the numerals, with blanks around them and
underscores in them. -/
theorem read?_eq_some_iff {s : String} {d : Representable} :
    read? s = some d ∧ d.val.isFinite = true ↔ Numeral ((trim s.toList).filter (· != '_')) d := by
  unfold read?
  generalize (trim s.toList).filter (· != '_') = cs
  constructor
  · rintro ⟨h, hd⟩
    obtain ⟨sign, negative, rest, htaken, rfl, hsign⟩ := takeSign_spec cs
    simp only [htaken] at h
    cases hfinite : readFinite? negative rest with
    | some d' =>
      rw [hfinite] at h
      cases h
      exact numeral_of_readFinite? hsign hfinite
    | none =>
      rw [hfinite] at h
      rw [isFinite_of_readNamed? h] at hd
      cases hd
  · obtain ⟨d, hrep⟩ := d
    rintro ⟨hsign, hwhole, hfraction, hexponent, hne, hrange⟩
    have htaken := takeSign_append hsign (not_sign_of_digits hwhole hfraction hexponent)
    refine ⟨?_, rfl⟩
    simp only [htaken, readFinite?_append _ hwhole hfraction hexponent hne hrange]
    rfl

end Remit.Decimal
