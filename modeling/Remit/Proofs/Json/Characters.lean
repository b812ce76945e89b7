import Remit.Proofs.Decimal.Plain
import Remit.Proofs.Json.Writing

/-!
# The characters of a JSON text

What is written is ASCII (`Value.isAscii_json`): letters of the printer's own, digits, and escapes
in place of all other characters.
-/

namespace Remit

open Remit.Text

/-! ## Hexadecimal digits -/

/-- A number below sixteen has one hexadecimal digit. -/
theorem hex_one {n : Nat} (h : n < 16) : hex 1 n = [Nat.digitChar n] := by
  rw [hex, Nat.toDigits_of_lt_base h]
  rfl

/-- The last digit of a number, behind those of the number without it. -/
theorem hex_succ {width : Nat} (hw : 0 < width) (n : Nat) :
    hex (width + 1) n = hex width (n / 16) ++ [Nat.digitChar (n % 16)] := by
  by_cases hn : n < 16
  · have hwidth : width = width - 1 + 1 := by omega
    rw [Nat.div_eq_of_lt hn, Nat.mod_eq_of_lt hn, hex, hex, Nat.toDigits_of_lt_base hn,
      Nat.toDigits_zero, List.length_singleton, List.length_singleton, Nat.add_sub_cancel, hwidth,
      List.replicate_succ', Nat.add_sub_cancel]
  · have hdigits : Nat.toDigits 16 n =
        Nat.toDigits 16 (n / 16) ++ [Nat.digitChar (n % 16)] := by
      have happend := Nat.toDigits_append_toDigits (b := 16) (n := n / 16) (d := n % 16)
        (by decide) (by omega) (Nat.mod_lt n (by decide))
      rw [Nat.toDigits_of_lt_base (Nat.mod_lt n (by decide)), Nat.div_add_mod] at happend
      exact happend.symm
    rw [hex, hex, hdigits, List.length_append, List.length_singleton, Nat.add_sub_add_right,
      List.append_assoc]

/-- The four digits of a number in one escape. -/
theorem hex_four {n : Nat} (h : n < 0x10000) :
    hex 4 n = [Nat.digitChar (n / 16 / 16 / 16), Nat.digitChar (n / 16 / 16 % 16),
      Nat.digitChar (n / 16 % 16), Nat.digitChar (n % 16)] := by
  rw [hex_succ (by decide), hex_succ (by decide), hex_succ (by decide), hex_one (by omega)]
  rfl

/-! ## Characters below 128 -/

/-- Whether all characters of a text are ASCII. -/
def IsAscii (cs : List Char) : Prop := ∀ c ∈ cs, c.toNat < 128

instance (cs : List Char) : Decidable (IsAscii cs) :=
  List.decidableBAll (fun c : Char => c.toNat < 128) cs

namespace IsAscii

variable {cs ds : List Char}

theorem nil : IsAscii [] := nofun

theorem cons {c : Char} (hc : c.toNat < 128) (h : IsAscii cs) : IsAscii (c :: cs) :=
  List.forall_mem_cons.2 ⟨hc, h⟩

/-- ASCII texts one behind the other are ASCII. -/
theorem append (h : IsAscii cs) (h' : IsAscii ds) : IsAscii (cs ++ ds) :=
  List.forall_mem_append.2 ⟨h, h'⟩

/-- What has no other characters than an ASCII text is ASCII. -/
theorem subset (h : IsAscii cs) (hsub : ∀ c ∈ ds, c ∈ cs) : IsAscii ds :=
  fun c hc => h c (hsub c hc)

/-- An ASCII character repeated is ASCII. -/
theorem replicate (n : Nat) {c : Char} (hc : c.toNat < 128) : IsAscii (List.replicate n c) := by
  intro c' hc'
  rw [List.eq_of_mem_replicate hc']
  exact hc

/-- ASCII texts with an ASCII separator between them are ASCII. -/
theorem intercalate {css : List (List Char)} (h : IsAscii ds) (hall : ∀ cs ∈ css, IsAscii cs) :
    IsAscii (ds.intercalate css) := by
  induction css with
  | nil => exact nil
  | cons cs css ih =>
    obtain ⟨hcs, hrest⟩ := List.forall_mem_cons.1 hall
    cases css with
    | nil => simpa using hcs
    | cons cs' css =>
      rw [List.intercalate_cons_cons]
      exact (hcs.append h).append (ih hrest)

/-- A row of digits is ASCII. -/
theorem of_isDigit (h : ∀ c ∈ cs, c.isDigit = true) : IsAscii cs := by
  intro c hc
  have hdigit := h c hc
  simp only [Char.isDigit, Bool.and_eq_true, decide_eq_true_eq, UInt32.le_iff_toNat_le] at hdigit
  exact Nat.lt_of_le_of_lt hdigit.2 (by decide)

/-- The digits of a number are ASCII. -/
theorem digits (n : Nat) : IsAscii (Decimal.digits n) :=
  of_isDigit fun _ => Decimal.isDigit_of_mem_digits

/-- The sign of a decimal is ASCII. -/
theorem minus (negative : Bool) : IsAscii (Decimal.minus negative) := by
  cases negative with
  | false => exact nil
  | true => exact cons (by decide) nil

end IsAscii

/-- A hexadecimal digit is ASCII. -/
theorem toNat_digitChar_lt {n : Nat} (h : n < 16) : (Nat.digitChar n).toNat < 128 := by
  have hall : ∀ d : Fin 16, (Nat.digitChar d).toNat < 128 := by decide
  exact hall ⟨n, h⟩

/-- The four hexadecimal digits of a code unit are ASCII. -/
theorem isAscii_hex_four {n : Nat} (h : n < 0x10000) : IsAscii (hex 4 n) := by
  have hdigit (m : Nat) : (Nat.digitChar (m % 16)).toNat < 128 :=
    toNat_digitChar_lt (Nat.mod_lt m (by decide))
  rw [hex_four h]
  exact .cons (toNat_digitChar_lt (by omega))
    (.cons (hdigit _) (.cons (hdigit _) (.cons (hdigit _) .nil)))

/-! ## Doubles -/

namespace Double

/-- The digits that tell a coefficient are ASCII. -/
theorem isAscii_significant (c : Nat) : IsAscii (significant c) :=
  (IsAscii.digits c).subset fun _ ha =>
    List.mem_reverse.1 ((List.dropWhile_sublist _).subset (List.mem_reverse.1 ha))

/-- Digits stay ASCII with a point and zeros among them … -/
theorem isAscii_positional {ds : List Char} (h : IsAscii ds) (place : Int) :
    IsAscii (positional ds place) := by
  unfold positional
  split
  · exact .cons (by decide) (.cons (by decide) ((IsAscii.replicate _ (by decide)).append h))
  · have hfilled :=
      h.append (IsAscii.replicate (place.toNat + 1 - ds.length) (c := '0') (by decide))
    refine (hfilled.subset fun _ => List.mem_of_mem_take).append (.cons (by decide) ?_)
    split
    · exact .cons (by decide) .nil
    · exact hfilled.subset fun _ => List.mem_of_mem_drop

/-- … and so do digits with a point behind the first. -/
theorem isAscii_mantissa {ds : List Char} (h : IsAscii ds) : IsAscii (Decimal.mantissa ds) := by
  unfold Decimal.mantissa
  split
  · obtain ⟨hd, hds⟩ := List.forall_mem_cons.1 h
    exact .cons hd (.cons (by decide) hds)
  · exact h

/-- A power of ten is written in ASCII. -/
theorem isAscii_exponentText (place : Int) : IsAscii (exponentText place) := by
  refine .cons (by decide) (.cons ?_ ((IsAscii.replicate _ (by decide)).append (.digits _)))
  split <;> decide

/-- The shortest text of a number is ASCII. -/
theorem isAscii_decimalText (c : Nat) (e : Int) : IsAscii (decimalText c e) := by
  simp only [decimalText]
  split
  · exact isAscii_positional (isAscii_significant c) _
  · exact (isAscii_mantissa (isAscii_significant c)).append (isAscii_exponentText _)

/-- A double is written in ASCII if the names of the infinities and of the undefined number are. -/
theorem isAscii_textWith {names : Names} (hinfinity : IsAscii names.infinity.toList)
    (hnan : IsAscii names.nan.toList) (d : Double) : IsAscii (textWith names d).toList := by
  cases d with
  | nan => exact hnan
  | infinite n =>
    rw [textWith, String.toList_append, String.toList_ofList]
    exact (IsAscii.minus n).append hinfinity
  | finite n m q =>
    simp only [textWith, String.toList_ofList]
    refine (IsAscii.minus n).append ?_
    split
    · exact .cons (by decide) (.cons (by decide) (.cons (by decide) .nil))
    · exact isAscii_decimalText _ _

end Double

/-! ## Values -/

namespace Json

/-- A character is no surrogate. -/
theorem toNat_cases (c : Char) : c.toNat < 0xD800 ∨ 0xDFFF < c.toNat ∧ c.toNat < 0x110000 := c.valid

/-- A character is a code point of Unicode. -/
theorem toNat_lt (c : Char) : c.toNat < 0x110000 := by
  have := toNat_cases c
  omega

/-- The escape of a code point is ASCII, be it one unit or a pair of surrogates. -/
theorem isAscii_escapePoint {n : Nat} (h : n < 0x110000) : IsAscii (escapePoint n) := by
  unfold escapePoint
  split
  · next hn => exact .cons (by decide) (.cons (by decide) (isAscii_hex_four hn))
  · exact IsAscii.append
      (.cons (by decide) (.cons (by decide) (isAscii_hex_four (by omega))))
      (.cons (by decide) (.cons (by decide) (isAscii_hex_four (by omega))))

/-- A character is written in ASCII, as it is or escaped. -/
theorem isAscii_escapeChar (c : Char) : IsAscii (escapeChar c) := by
  have hpair {d : Char} (hd : d.toNat < 128) : IsAscii ['\\', d] :=
    .cons (by decide) (.cons hd .nil)
  unfold escapeChar
  split_ifs with _ _ _ _ _ _ _ hplain
  iterate 7 exact hpair (by decide)
  · exact .cons (by omega) .nil
  · exact isAscii_escapePoint (toNat_lt c)

/-- A text is written in ASCII. -/
theorem isAscii_string (s : String) : IsAscii (string s).toList := by
  have hchars : IsAscii (s.toList.flatMap escapeChar) := by
    intro c hc
    obtain ⟨d, -, hd⟩ := List.mem_flatMap.1 hc
    exact isAscii_escapeChar d c hd
  rw [string, String.toList_ofList]
  exact .append (.cons (by decide) hchars) (.cons (by decide) .nil)

/-- A whole number is written in ASCII. -/
theorem isAscii_int {i : Int} {s : String} (h : int i = .ok s) : IsAscii s.toList := by
  unfold int intText? at h
  split at h
  · next hs =>
    cases h
    split at hs
    · cases hs
      rw [Int.toString_eq_repr, Int.repr_eq_if]
      split
      · rw [Nat.toList_repr]
        exact .digits _
      · rw [String.toList_append, Nat.toList_repr]
        exact .cons (by decide) (.digits _)
    · cases hs
  · cases h

/-- Members in ASCII with commas between them are ASCII. -/
theorem isAscii_intercalate {ss : List String} (h : ∀ s ∈ ss, IsAscii s.toList) :
    IsAscii (", ".intercalate ss).toList := by
  rw [String.toList_intercalate]
  refine IsAscii.intercalate (.cons (by decide) (.cons (by decide) .nil)) fun cs hcs => ?_
  obtain ⟨s, hs, rfl⟩ := List.mem_map.1 hcs
  exact h s hs

/-- A list of members in ASCII is ASCII. -/
theorem isAscii_array {ss : List String} (h : ∀ s ∈ ss, IsAscii s.toList) :
    IsAscii (array ss).toList := by
  rw [array, String.toList_append, String.toList_append]
  exact .append (.append (.cons (by decide) .nil) (isAscii_intercalate h)) (.cons (by decide) .nil)

end Json

namespace Value

/-- The text of a value is ASCII. -/
theorem isAscii_json {v : Value} {s : String} (h : v.json = .ok s) : IsAscii s.toList := by
  have hlist {vs : List Value} {s : String} (h : (list vs).json = .ok s)
      (ih : ∀ v ∈ vs, ∀ {s : String}, v.json = .ok s → IsAscii s.toList) : IsAscii s.toList := by
    obtain ⟨ss, hss, rfl⟩ := exists_of_json_list h
    refine Json.isAscii_array fun t ht => ?_
    obtain ⟨v, hv, hvt⟩ := exists_of_mem_forall₂ hss ht
    exact ih v hv hvt
  have hobject {fs : Fields} {s : String} (h : (object fs).json = .ok s)
      (ih : ∀ k v, (k, v) ∈ fs → ∀ {s : String}, v.json = .ok s → IsAscii s.toList) :
      IsAscii s.toList := by
    obtain ⟨ss, hss, rfl⟩ := exists_of_json_object h
    rw [String.toList_append, String.toList_append]
    refine .append (.append (.cons (by decide) .nil) (Json.isAscii_intercalate fun m hm => ?_))
      (.cons (by decide) .nil)
    obtain ⟨f, hf, t, ht, rfl⟩ := exists_of_mem_forall₂ hss hm
    rw [String.toList_append, String.toList_append]
    exact .append (.append (Json.isAscii_string f.1) (.cons (by decide) (.cons (by decide) .nil)))
      (ih f.1 f.2 (List.mem_mergeSort.1 hf) ht)
  induction v using Value.induction generalizing s with
  | scalar v hv =>
    cases v with
    | null =>
      cases h
      decide
    | bool b =>
      cases h
      cases b <;> decide
    | int i | accountType t =>
      rw [json] at h
      exact Json.isAscii_int h
    | double d =>
      rw [json] at h
      exact Except.ok.inj h ▸ Double.isAscii_textWith (by decide) (by decide) d
    | bytes | unset => cases h
    | list | set | object | record => cases hv
    | text | decimal | date | state | transferType =>
      rw [json] at h
      exact Except.ok.inj h ▸ Json.isAscii_string _
  | list vs ih => exact hlist h ih
  | set vs ih => exact hlist (json_set vs ▸ h) ih
  | object fs ih => exact hobject h ih
  | record type fs ih => exact hobject (json_record type fs ▸ h) ih

end Value

end Remit
