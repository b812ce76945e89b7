import Remit.Proofs.Value.Equality
import Remit.Proofs.Value.Number
import Remit.Refusal
import Remit.Request.Beneficiary

/-!
# Which values a rule allows

What a rule allows is told from the value that a parameter was given (`Rule.Allows`), although a
rule judges what the rules before it made of that value: a rule about whole numbers finds a number
that was written as a text. `Rule.Finds` relates the two. There is one lemma for each rule, and the
error of a parameter is that of the first rule that does not allow its value (`complaint`).
-/

namespace Remit

/-- A value that is taken as a text: it does not hold blanks only, and has at most so many
characters as it is displayed. -/
structure Value.IsText (v : Value) (limit : Int) (s : String) : Prop where
  text : v.text? = some s
  notBlank : Text.isBlankText s = false
  short : ∃ shown, v.display? = some shown ∧ (shown.length : Int) ≤ limit

namespace Value

variable {v : Value} {s : String} {limit limit' : Int}

theorem IsText.mono (h : v.IsText limit s) (hl : limit ≤ limit') : v.IsText limit' s := by
  obtain ⟨shown, hshown, hlength⟩ := h.short
  exact ⟨h.text, h.notBlank, shown, hshown, hlength.trans hl⟩

/-- A text of limited length is not longer than its limit, whatever it is displayed as. -/
theorem IsText.length_le (h : v.IsText limit s) : (s.length : Int) ≤ limit := by
  obtain ⟨shown, hshown, hlength⟩ := h.short
  have htext := h.text
  cases v with
  | text t =>
    obtain rfl : t = s := Option.some_inj.1 htext
    obtain rfl : t = shown := Option.some_inj.1 hshown
    exact hlength
  | state t =>
    obtain rfl : t.name = s := Option.some_inj.1 htext
    obtain rfl : "BeneficiaryState." ++ t.name = shown := Option.some_inj.1 hshown
    rw [String.length_append] at hlength
    omega
  | transferType t =>
    obtain rfl : t.name = s := Option.some_inj.1 htext
    obtain rfl : "TransferType." ++ t.name.toUpper = shown := Option.some_inj.1 hshown
    have hname : t.name.length ≤ "TransferType.".length := by
      cases t <;> decide
    rw [String.length_append] at hlength
    omega
  | _ => cases htext

/-- A text is read as itself if it is not blank and not too long. -/
theorem isText_text : (text s).IsText limit s ↔
    Text.isBlankText s = false ∧ (s.length : Int) ≤ limit := by
  constructor
  · rintro ⟨-, hb, shown, hshown, hlength⟩
    obtain rfl : s = shown := Option.some_inj.1 hshown
    exact ⟨hb, hlength⟩
  · rintro ⟨hb, hlength⟩
    exact ⟨rfl, hb, s, rfl, hlength⟩

theorem isNull_iff : v.isNull = true ↔ v = .null := by
  cases v <;> simp [isNull]

/-- An amount is a finite number. -/
theorem isFinite_of_amount? {d : Decimal.Representable} (h : v.amount? = some d) :
    d.val.isFinite = true :=
  (Option.filter_eq_some_iff.1 h).2

end Value

/-! ## What a rule allows -/

namespace Rule

/-- Whether a rule allows the value that a parameter was given, whatever the rules before it made of
the value. Only the rules that ask for a value do not allow null. -/
def Allows : Rule → Value → Prop
  | ignoreIfNull, _ => True
  | notNull, v => v.isNull = false
  | notBlank, v => ∃ s, v.text? = some s ∧ Text.isBlankText s = false
  | maxLength limit, v =>
    v.isNull = true ∨ ∃ shown, v.display? = some shown ∧ (shown.length : Int) ≤ limit
  | oneOf allowed, v => v.isNull = true ∨ ∃ i : Int, .int i ∈ allowed ∧ v.Denotes i
  | integer, v => v.isNull = true ∨ ∃ i : Int, v.Denotes i
  | amount, v => v.isNull = true ∨ ∃ q, v.Denotes q
  | greaterThanZero, v => v.isNull = true ∨ ∃ q, 0 < q ∧ v.Denotes q
  | positiveAmount, v => v.isNull = true ∨ ∃ q, 0 < q ∧ v.Denotes q

/-- The end of the error code and the message for a value that a rule does not allow. -/
def rejection (name : String) : Rule → Option (String × String)
  | ignoreIfNull => none
  | notNull | notBlank => some ("cannot.be.blank", s!"The parameter `{name}` is mandatory.")
  | maxLength limit =>
    some ("exceeds.max.length", s!"The parameter `{name}` exceeds max length of {limit}.")
  | oneOf allowed =>
    some ("is.not.one.of.expected.enumerations",
      s!"The parameter `{name}` must be one of {Refusal.shown (.list allowed)}.")
  | integer => some ("not.a.valid.integer", s!"The parameter `{name}` must be a whole number.")
  | amount => some ("invalid.decimal.format", s!"The parameter `{name}` is not a valid amount.")
  | greaterThanZero | positiveAmount =>
    some ("not.greater.than.zero", s!"The parameter `{name}` must be greater than 0.")

variable {name : String} {v w : Value}

/-- A value that is not allowed is rejected with an error. -/
theorem exists_rejection (name : String) {r : Rule} (h : ¬ r.Allows v) :
    ∃ p, r.rejection name = some p := by
  cases r with
  | ignoreIfNull => exact absurd trivial h
  | _ => exact ⟨_, rfl⟩

/-- A rule that does not ask for a value allows null. -/
theorem allows_null {r : Rule} (hn : r ≠ .notNull) (hb : r ≠ .notBlank) : r.Allows .null := by
  cases r with
  | notNull => exact absurd rfl hn
  | notBlank => exact absurd rfl hb
  | ignoreIfNull => trivial
  | _ => exact .inl rfl

end Rule

open Classical in
/-- The error of a parameter: that of the first rule that does not allow its value. -/
noncomputable def complaint (resource name : String) (rules : List Rule) (v : Value) :
    Option ParameterError :=
  ((rules.find? fun r => ¬ r.Allows v).bind (Rule.rejection name)).map fun p =>
    Check.errorOf resource name p.1 p.2

section
variable {resource name : String} {rules : List Rule} {r : Rule} {v : Value}

@[simp] theorem complaint_nil : complaint resource name [] v = none := rfl

/-- A rule that allows the value leaves the error to the later ones. -/
theorem complaint_cons_of_allows (h : r.Allows v) :
    complaint resource name (r :: rules) v = complaint resource name rules v := by
  rw [complaint, List.find?_cons_of_neg (by simpa using h)]
  rfl

/-- A rule that does not allow the value gives the error. -/
theorem complaint_cons_of_not_allows (h : ¬ r.Allows v) {suffix message : String}
    (hr : r.rejection name = some (suffix, message)) :
    complaint resource name (r :: rules) v =
      some (Check.errorOf resource name suffix message) := by
  rw [complaint, List.find?_cons_of_pos (by simpa using h), Option.bind_some, hr]
  rfl

/-- A parameter has no error exactly if all its rules allow its value. -/
theorem complaint_eq_none_iff :
    complaint resource name rules v = none ↔ ∀ r ∈ rules, r.Allows v := by
  induction rules with
  | nil => simp
  | cons r rules ih =>
    by_cases h : r.Allows v
    · rw [complaint_cons_of_allows h, ih, List.forall_mem_cons]
      exact (and_iff_right h).symm
    · obtain ⟨⟨suffix, message⟩, hp⟩ := Rule.exists_rejection name h
      rw [complaint_cons_of_not_allows h hp]
      exact ⟨nofun, fun hall => (h (hall r List.mem_cons_self)).elim⟩

end

/-! ## What a rule finds -/

namespace Rule

/-- What a rule finds where the rules before it have made `w` of the value `v`: it keeps this value
or reads another one from it, with the property `Q`, or it rejects it with its error. -/
inductive Finds (name : String) (v : Value) (Q : Value → Prop) (r : Rule) (w : Value) : Prop where
  | keeps : r.Allows v → r.judge name w = .ok .keep → Q w → Finds name v Q r w
  | reads {w' : Value} : r.Allows v → r.judge name w = .ok (.become w') → Q w' →
      Finds name v Q r w
  | rejects {suffix message : String} : ¬ r.Allows v →
      r.rejection name = some (suffix, message) → r.judge name w = .ok (.reject suffix message) →
      Finds name v Q r w

variable {name : String} {v : Value}

theorem Finds.imp {Q Q' : Value → Prop} {r : Rule} {w : Value} (h : r.Finds name v Q w)
    (hq : ∀ w, Q w → Q' w) : r.Finds name v Q' w := by
  cases h with
  | keeps hallows hjudge h => exact .keeps hallows hjudge (hq _ h)
  | reads hallows hjudge h => exact .reads hallows hjudge (hq _ h)
  | rejects hallows hrejection hjudge => exact .rejects hallows hrejection hjudge

/-- A value that is not null passes the rule that asks for one. -/
theorem finds_notNull : notNull.Finds name v (fun w => w = v ∧ v.isNull = false) v := by
  by_cases h : v.isNull = true
  · exact .rejects (by simp [Allows, h]) rfl (by rw [judge, h]; rfl)
  · rw [Bool.not_eq_true] at h
    exact .keeps h (by rw [judge, h]; rfl) ⟨rfl, h⟩

/-- A text that is not blank passes the rule that asks for one. -/
theorem finds_notBlank :
    notBlank.Finds name v
      (fun w => w = v ∧ ∃ s, v.text? = some s ∧ Text.isBlankText s = false) v := by
  cases hs : v.text? with
  | none => exact .rejects (by simp [Allows, hs]) rfl (by rw [judge, hs]; rfl)
  | some s =>
    cases hb : Text.isBlankText s with
    | true => exact .rejects (by simp [Allows, hs, hb]) rfl (by simp [judge, hs, hb, mandatory])
    | false => exact .keeps ⟨s, hs, hb⟩ (by simp [judge, hs, hb]) ⟨rfl, s, rfl, hb⟩

/-- The length of a text is that of its characters as displayed. -/
theorem finds_maxLength {limit : Int} {s : String} (hs : v.text? = some s) :
    (maxLength limit).Finds name v (fun w => w = v ∧
      ∃ shown, v.display? = some shown ∧ (shown.length : Int) ≤ limit) v := by
  obtain ⟨shown, hshown⟩ : ∃ shown, v.display? = some shown := by
    cases v <;> simp_all [Value.text?, Value.display?]
  have hn : v.isNull = false := by cases v <;> simp_all [Value.text?, Value.isNull]
  have hjudge : (maxLength limit).judge name v = .ok (if (shown.length : Int) ≤ limit then .keep
      else .reject "exceeds.max.length"
        s!"The parameter `{name}` exceeds max length of {limit}.") := by
    cases v <;> simp_all [judge, Value.isNull]
  by_cases hl : (shown.length : Int) ≤ limit
  · exact .keeps (.inr ⟨shown, hshown, hl⟩) (by rw [hjudge, if_pos hl]) ⟨rfl, shown, hshown, hl⟩
  · refine .rejects ?_ rfl (by rw [hjudge, if_neg hl])
    rintro (h | ⟨shown', h, hle⟩)
    · simp [hn] at h
    · cases hshown.symm.trans h
      exact hl hle

/-- A whole number is read from every value that stands for one. -/
theorem finds_integer (hn : v.isNull = false) :
    integer.Finds name v (fun w => ∃ i, w = .int i ∧ v.Denotes i) v := by
  cases hd : v.amount?.filter (·.val.isWhole) with
  | some d =>
    have hjudge : integer.judge name v = .ok (.become (.int d.val.truncate)) := by
      cases v with
      | null => cases hn
      | _ => simp only [judge, hd]
    have hv : v.Denotes (d.val.truncate : Int) := Value.denotes_int_iff.2 ⟨d, hd, rfl⟩
    exact .reads (.inr ⟨_, hv⟩) hjudge ⟨_, rfl, hv⟩
  | none =>
    have hjudge : integer.judge name v = .ok (.reject "not.a.valid.integer"
        s!"The parameter `{name}` must be a whole number.") := by
      cases v with
      | null => cases hn
      | _ => simp only [judge, hd]
    refine .rejects ?_ rfl hjudge
    rintro (h | ⟨i, hi⟩)
    · simp [hn] at h
    · obtain ⟨d, hd', -⟩ := Value.denotes_int_iff.1 hi
      cases hd.symm.trans hd'

/-- A whole number passes if it is among those that are allowed. -/
theorem finds_oneOf {js : List Int} {i : Int} (hi : v.Denotes i) {shown : String}
    (hshown : (Value.list (js.map .int)).display? = some shown) :
    (oneOf (js.map .int)).Finds name v (fun w => w = .int i ∧ i ∈ js) (.int i) := by
  have hjudge : (oneOf (js.map .int)).judge name (.int i) = .ok (if i ∈ js then .keep
      else .reject "is.not.one.of.expected.enumerations"
        s!"The parameter `{name}` must be one of {shown}.") := by
    by_cases h : i ∈ js <;>
      simp [judge, Value.elem?_int, hshown, h, Except.mapError, bind, Except.bind, pure,
        Except.pure]
  by_cases h : i ∈ js
  · exact .keeps (.inr ⟨i, List.mem_map_of_mem h, hi⟩) (by rw [hjudge, if_pos h]) ⟨rfl, h⟩
  · refine .rejects ?_ rfl (by rw [hjudge, if_neg h, Refusal.shown, hshown]; rfl)
    rintro (hnull | ⟨j, hj, hv⟩)
    · simp [hi.isNull_eq] at hnull
    · obtain ⟨j', hj', heq⟩ := List.mem_map.1 hj
      cases heq
      obtain rfl : i = j := by exact_mod_cast hi.eq hv
      exact h hj'

/-- A number that a whole number stands for is at most zero exactly if the whole number is. -/
theorem atMostZero_int (i : Int) : (Value.int i).atMostZero = .ok (decide (¬ 0 < i)) := by
  show ((Decimal.ofInt i).le? .zero).mapError Breakdown.ofSignal = _
  rw [Decimal.le?_zero (Decimal.isFinite_ofInt i), Decimal.value_ofInt]
  simp [Except.mapError]

/-- A whole number passes if it is above zero. -/
theorem finds_greaterThanZero {i : Int} (hi : v.Denotes i) :
    greaterThanZero.Finds name v (fun w => w = .int i ∧ 0 < i) (.int i) := by
  have hjudge : greaterThanZero.judge name (.int i) =
      .ok (if 0 < i then .keep else notPositive name) := by
    rw [judge, atMostZero_int]
    · by_cases h : 0 < i <;> simp [h, bind, Except.bind, pure, Except.pure]
    · exact nofun
  by_cases h : 0 < i
  · exact .keeps (.inr ⟨i, by exact_mod_cast h, hi⟩) (by rw [hjudge, if_pos h]) ⟨rfl, h⟩
  · refine .rejects ?_ rfl (by rw [hjudge, if_neg h]; rfl)
    rintro (hnull | ⟨q, hq, hv⟩)
    · simp [hi.isNull_eq] at hnull
    · rw [← hi.eq hv] at hq
      exact h (by exact_mod_cast hq)

/-- An amount is read from every value that stands for a number. -/
theorem finds_amount (hn : v.isNull = false) :
    amount.Finds name v (fun w => ∃ d, w = .decimal d ∧ v.amount? = some d) v := by
  cases hd : v.amount? with
  | some d =>
    have hjudge : amount.judge name v = .ok (.become (.decimal d)) := by
      cases v with
      | null => cases hn
      | _ => simp only [judge, hd]
    exact .reads (.inr ⟨_, Value.denotes_iff_amount?.2 ⟨d, hd, rfl⟩⟩) hjudge ⟨d, rfl, rfl⟩
  | none =>
    have hjudge : amount.judge name v = .ok (.reject "invalid.decimal.format"
        s!"The parameter `{name}` is not a valid amount.") := by
      cases v with
      | null => cases hn
      | _ => simp only [judge, hd]
    refine .rejects ?_ rfl hjudge
    rintro (h | ⟨q, hq⟩)
    · simp [hn] at h
    · obtain ⟨d, hd', -⟩ := Value.denotes_iff_amount?.1 hq
      cases hd.symm.trans hd'

/-- An amount passes if it is above zero. -/
theorem finds_positiveAmount {d : Decimal.Representable} (hd : v.amount? = some d) :
    positiveAmount.Finds name v (fun w => w = .decimal d ∧ 0 < d.val.value) (.decimal d) := by
  have hv : v.Denotes d.val.value := Value.denotes_iff_amount?.2 ⟨d, hd, rfl⟩
  have hjudge : positiveAmount.judge name (.decimal d) =
      .ok (if 0 < d.val.value then .keep else notPositive name) := by
    rw [judge, Decimal.le?_zero (Value.isFinite_of_amount? hd)]
    by_cases h : 0 < d.val.value <;>
      simp [h, Except.mapError, bind, Except.bind, pure, Except.pure]
  by_cases h : 0 < d.val.value
  · exact .keeps (.inr ⟨_, h, hv⟩) (by rw [hjudge, if_pos h]) ⟨rfl, h⟩
  · refine .rejects ?_ rfl (by rw [hjudge, if_neg h]; rfl)
    rintro (hnull | ⟨q, hq, hv'⟩)
    · simp [hv.isNull_eq] at hnull
    · exact h (hv.eq hv' ▸ hq)

end Rule

end Remit
