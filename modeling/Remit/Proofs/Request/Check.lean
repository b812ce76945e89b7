import Remit.Proofs.Journal
import Remit.Proofs.Request.Rule
import Remit.Request.Transfer

/-!
# What a checked parameter may be

A check of a parameter comes to an end, and its error is that of the first rule that does not allow
the value (`Check.run_of_chain`): each rule finds what the rules before it have left
(`Check.Chain`), and a run goes through the rules one by one. So what a parameter is read as is
known from its value alone: a text of limited length, an account kind, a limit that is null or
positive, a positive amount (`parameter_textRules`, `parameter_accountTypeRules`,
`parameter_transferLimitRules`, `parameter_amountRules`). A request has no unsupported parameter
exactly if all its names are supported (`unsupportedErrors_eq_nil_iff`).
-/

namespace Remit

/-! ## Running rules -/

namespace Check

variable {resource : String} {c : Check}

/-- The first rule of an unfinished check, unless it is about null, judges the value. -/
theorem run_judge {r : Rule} {rules : List Rule} (hc : c.isDone = false) (hr : r ≠ .ignoreIfNull) :
    run resource (r :: rules) c =
      (r.judge c.name c.value).bind fun v => run resource rules (c.settle resource v) := by
  rw [run_cons, apply, if_neg (by simp [hc])]
  · cases r.judge c.name c.value <;> rfl
  · exact fun h _ => hr h

/-- Null ends a check that accepts it; any other value goes on to the next rule. -/
theorem run_ignoreIfNull {rules : List Rule} (hc : c.isDone = false) :
    run resource (.ignoreIfNull :: rules) c =
      if c.value.isNull then .ok { c with skipped := true } else run resource rules c := by
  have happly : apply resource c .ignoreIfNull =
      .ok (if c.value.isNull then { c with skipped := true } else c) := by
    rcases c with ⟨name, value, skipped, error⟩
    refine (if_neg (by simp [hc])).trans ?_
    cases value <;> rfl
  rw [run_cons, happly]
  cases c.value.isNull with
  | true => exact run_of_isDone rfl rules
  | false => rfl

/-- A rejection ends a check. -/
theorem run_settle_reject {suffix message : String} {rules : List Rule} :
    run resource rules (c.settle resource (.reject suffix message)) =
      .ok (c.settle resource (.reject suffix message)) :=
  run_of_isDone (by simp [settle, isDone]) rules

/-- Rules in order, each of which finds what the rules before it have made of the value `v`: what
has the property `P` at the start has `R` at the end. -/
inductive Chain (name : String) (v : Value) :
    (Value → Prop) → List Rule → (Value → Prop) → Prop where
  | nil {P : Value → Prop} : Chain name v P [] P
  | cons {P Q R : Value → Prop} {r : Rule} {rules : List Rule} : r ≠ .ignoreIfNull →
      (∀ w, P w → r.Finds name v Q w) → Chain name v Q rules R → Chain name v P (r :: rules) R

/-- A run comes to an end. Its error is that of the first rule that does not allow the value, and
without an error the rules have done what they do. -/
theorem run_of_chain (resource : String) {name : String} {v : Value} {rules : List Rule}
    {P R : Value → Prop} (h : Chain name v P rules R) {w : Value} (hw : P w) :
    ∃ c, run resource rules ⟨name, w, false, none⟩ = .ok c ∧
      c.error = complaint resource name rules v ∧ (c.error = none → R c.value) := by
  induction h generalizing w with
  | nil => exact ⟨_, rfl, rfl, fun _ => hw⟩
  | @cons _ Q _ r rules hr hfinds _ ih =>
    rw [run_judge (by rfl) hr]
    cases hfinds w hw with
    | keeps hallows hjudge hq =>
      rw [hjudge, complaint_cons_of_allows hallows]
      exact ih hq
    | reads hallows hjudge hq =>
      rw [hjudge, complaint_cons_of_allows hallows]
      exact ih hq
    | rejects hallows hrejection hjudge =>
      rw [hjudge, complaint_cons_of_not_allows hallows hrejection]
      exact ⟨_, run_settle_reject, rfl, nofun⟩

/-- A run that accepts null leaves null as it is, and goes through the rules for any other value. -/
theorem run_ignoreIfNull_of_chain (resource : String) {name : String} {v : Value}
    {rules : List Rule} {R : Value → Prop}
    (hnull : ∀ r ∈ rules, r.Allows .null)
    (h : v.isNull = false → Chain name v (· = v) rules R) :
    ∃ c, run resource (.ignoreIfNull :: rules) ⟨name, v, false, none⟩ = .ok c ∧
      c.error = complaint resource name (.ignoreIfNull :: rules) v ∧
      (c.error = none → v.isNull = true ∧ c.value = v ∨ v.isNull = false ∧ R c.value) := by
  rw [run_ignoreIfNull (by rfl), complaint_cons_of_allows (r := .ignoreIfNull) trivial]
  cases hv : v.isNull with
  | true =>
    obtain rfl := Value.isNull_iff.1 hv
    refine ⟨_, if_pos hv, ?_, fun _ => .inl ⟨rfl, rfl⟩⟩
    exact (complaint_eq_none_iff.2 hnull).symm
  | false =>
    rw [if_neg (by simp)]
    obtain ⟨c, hc, herror, hread⟩ := run_of_chain resource (h hv) rfl
    exact ⟨c, hc, herror, fun he => .inr ⟨rfl, hread he⟩⟩

theorem errors_eq_nil_iff {cs : List Check} : errors cs = [] ↔ ∀ c ∈ cs, c.error = none :=
  List.filterMap_eq_nil_iff

end Check

/-! ## Parameters -/

/-- What a value stands for as a limit: null for none, a positive whole number for itself. -/
def Value.IsLimit (v : Value) : Option Int → Prop
  | none => v.isNull = true
  | some i => 0 < i ∧ v.Denotes i

/-- A limit is positive. -/
theorem Value.IsLimit.pos {v : Value} {o : Option Int} {i : Int} (h : v.IsLimit o)
    (hi : o = some i) : 0 < i := by
  subst hi
  exact h.1

namespace Request

/-- The rules of a text allow exactly the texts of limited length. -/
theorem allows_textRules_iff {v : Value} {limit : Int} :
    (∀ r ∈ textRules limit, r.Allows v) ↔ ∃ s, v.IsText limit s := by
  simp only [textRules, List.forall_mem_cons, List.not_mem_nil, false_imp_iff, implies_true,
    and_true, Rule.Allows]
  constructor
  · rintro ⟨⟨s, hs, hb⟩, hn | hshort⟩
    · rw [Value.isNull_iff.1 hn] at hs
      cases hs
    · exact ⟨s, hs, hb, hshort⟩
  · rintro ⟨s, h⟩
    exact ⟨⟨s, h.text, h.notBlank⟩, .inr h.short⟩

/-- The rules of an amount allow exactly what stands for a positive number. -/
theorem allows_amountRules_iff {v : Value} :
    (∀ r ∈ [Rule.notNull, .amount, .positiveAmount], r.Allows v) ↔ ∃ q, 0 < q ∧ v.Denotes q := by
  simp only [List.forall_mem_cons, List.not_mem_nil, false_imp_iff, implies_true, and_true,
    Rule.Allows]
  constructor
  · rintro ⟨hn, -, hnull | hpos⟩
    · simp [hn] at hnull
    · exact hpos
  · rintro ⟨q, hpos, hq⟩
    exact ⟨hq.isNull_eq, .inr ⟨q, hq⟩, .inr ⟨q, hpos, hq⟩⟩

variable (resource : String) (fields : Fields) (name : String)

/-- A parameter is checked by running its rules. -/
theorem parameter_of_run {rules : List Rule} {c : Check}
    (h : Check.run resource rules ⟨name, fields.get name, false, none⟩ = .ok c) :
    parameter resource fields name rules = .ok c :=
  mapError_eq_ok.2 h

/-- A text is kept as it is. -/
theorem chain_textRules (v : Value) (limit : Int) :
    Check.Chain name v (· = v) (textRules limit) (fun w => w = v ∧ ∃ s, v.IsText limit s) := by
  refine .cons (Q := fun w => w = v ∧ ∃ s, v.text? = some s ∧ Text.isBlankText s = false)
    nofun ?_ (.cons nofun ?_ .nil)
  · rintro _ rfl
    exact Rule.finds_notBlank
  · rintro _ ⟨rfl, s, hs, hb⟩
    exact (Rule.finds_maxLength hs).imp fun _ ⟨hw, hshort⟩ => ⟨hw, s, hs, hb, hshort⟩

/-- An account kind is read from its number. -/
theorem chain_accountTypeRules (v : Value) :
    Check.Chain name v (· = v) accountTypeRules
      (fun w => ∃ t : AccountType, w = .int t.number ∧ v.Denotes t.number) := by
  refine .cons (Q := fun w => w = v ∧ v.isNull = false) nofun ?_
    (.cons (Q := fun w => ∃ i : Int, w = .int i ∧ v.Denotes i) nofun ?_ (.cons nofun ?_ .nil))
  · rintro _ rfl
    exact Rule.finds_notNull
  · rintro _ ⟨rfl, hn⟩
    exact Rule.finds_integer hn
  · rintro _ ⟨i, rfl, hi⟩
    have hshown : (Value.list ([1, 2].map .int)).display? = some "[1, 2]" := by rfl
    refine (Rule.finds_oneOf hi hshown).imp ?_
    rintro _ ⟨rfl, hmem⟩
    rcases List.mem_pair.1 hmem with rfl | rfl
    · exact ⟨.loan, rfl, hi⟩
    · exact ⟨.savings, rfl, hi⟩

/-- A limit that is not null is read as a positive whole number. -/
theorem chain_limitRules {v : Value} (hn : v.isNull = false) :
    Check.Chain name v (· = v) [.integer, .greaterThanZero]
      (fun w => ∃ i : Int, w = .int i ∧ 0 < i ∧ v.Denotes i) := by
  refine .cons (Q := fun w => ∃ i : Int, w = .int i ∧ v.Denotes i) nofun ?_ (.cons nofun ?_ .nil)
  · rintro _ rfl
    exact Rule.finds_integer hn
  · rintro _ ⟨i, rfl, hi⟩
    exact (Rule.finds_greaterThanZero hi).imp fun _ ⟨hw, hpos⟩ => ⟨i, hw, hpos, hi⟩

/-- An amount is read as a positive decimal. -/
theorem chain_amountRules (v : Value) :
    Check.Chain name v (· = v) [.notNull, .amount, .positiveAmount]
      (fun w => ∃ d, w = .decimal d ∧ v.amount? = some d ∧ 0 < d.val.value) := by
  refine .cons (Q := fun w => w = v ∧ v.isNull = false) nofun ?_
    (.cons (Q := fun w => ∃ d, w = .decimal d ∧ v.amount? = some d) nofun ?_ (.cons nofun ?_ .nil))
  · rintro _ rfl
    exact Rule.finds_notNull
  · rintro _ ⟨rfl, hn⟩
    exact Rule.finds_amount hn
  · rintro _ ⟨d, rfl, hd⟩
    exact (Rule.finds_positiveAmount hd).imp fun _ ⟨hw, hpos⟩ => ⟨d, hw, hd, hpos⟩

/-- A check of a text comes to an end: without an error for a text of limited length, which is kept
as it is. -/
theorem parameter_textRules (limit : Int) :
    ∃ c, parameter resource fields name (textRules limit) = .ok c ∧
      c.error = complaint resource name (textRules limit) (fields.get name) ∧
      (c.error = none → (fields.get name).IsText limit (textOf c)) := by
  obtain ⟨c, hc, herror, hread⟩ :=
    Check.run_of_chain resource (chain_textRules name (fields.get name) limit) rfl
  refine ⟨c, parameter_of_run _ _ _ hc, herror, fun he => ?_⟩
  obtain ⟨hvalue, s, hs⟩ := hread he
  rw [textOf, hvalue, hs.text]
  exact hs

/-- The number of an account kind equals that of no other. -/
theorem accountTypeOf_number (t : AccountType) : accountTypeOf (.int t.number) = .ok t := by
  unfold accountTypeOf AccountType.all
  cases t <;> simp [List.findM?, Value.equal?_int, AccountType.number] <;> rfl

/-- A check of an account kind comes to an end, without an error for a number of a kind. -/
theorem parameter_accountTypeRules :
    ∃ c, parameter resource fields name accountTypeRules = .ok c ∧
      c.error = complaint resource name accountTypeRules (fields.get name) ∧
      (c.error = none → ∃ t : AccountType, accountTypeOf c.value = .ok t ∧
        (fields.get name).Denotes t.number) := by
  obtain ⟨c, hc, herror, hread⟩ :=
    Check.run_of_chain resource (chain_accountTypeRules name (fields.get name)) rfl
  refine ⟨c, parameter_of_run _ _ _ hc, herror, fun he => ?_⟩
  obtain ⟨t, hvalue, ht⟩ := hread he
  exact ⟨t, by rw [hvalue, accountTypeOf_number], ht⟩

/-- A check of a limit comes to an end, without an error for null and for positive numbers. -/
theorem parameter_transferLimitRules :
    ∃ c, parameter resource fields name transferLimitRules = .ok c ∧
      c.error = complaint resource name transferLimitRules (fields.get name) ∧
      (c.error = none → (fields.get name).IsLimit (intOf? c)) := by
  obtain ⟨c, hc, herror, hread⟩ :=
    Check.run_ignoreIfNull_of_chain resource (v := fields.get name)
      (fun r hr => Rule.allows_null (by rintro rfl; simp at hr) (by rintro rfl; simp at hr))
      (chain_limitRules name)
  refine ⟨c, parameter_of_run _ _ _ hc, herror, fun he => ?_⟩
  rcases hread he with ⟨hnull, hvalue⟩ | ⟨-, i, hvalue, hpos, hi⟩
  · rw [intOf?, hvalue, Value.isNull_iff.1 hnull]
    exact rfl
  · rw [intOf?, hvalue]
    exact ⟨hpos, hi⟩

/-- A check of an amount comes to an end, without an error for a positive number, which is read. -/
theorem parameter_amountRules :
    ∃ c, parameter resource fields name [.notNull, .amount, .positiveAmount] = .ok c ∧
      c.error =
        complaint resource name [.notNull, .amount, .positiveAmount] (fields.get name) ∧
      (c.error = none → (fields.get name).amount? = some (amountOf c) ∧
        0 < (amountOf c).val.value) := by
  obtain ⟨c, hc, herror, hread⟩ :=
    Check.run_of_chain resource (chain_amountRules name (fields.get name)) rfl
  refine ⟨c, parameter_of_run _ _ _ hc, herror, fun he => ?_⟩
  obtain ⟨d, hvalue, hd, hpos⟩ := hread he
  rw [amountOf, hvalue]
  exact ⟨hd, hpos⟩

/-- A request without unsupported parameters has supported ones only. -/
theorem unsupportedErrors_eq_nil_iff {fields : Fields} {supported : List String} :
    unsupportedErrors fields supported = [] ↔ ∀ f ∈ fields, f.1 ∈ supported := by
  rw [unsupportedErrors, List.map_eq_nil_iff, ← List.length_eq_zero_iff, List.length_mergeSort,
    List.length_eq_zero_iff, List.filter_eq_nil_iff]
  simp only [List.mem_eraseDups, List.mem_map, Bool.not_eq_true, Bool.not_eq_false',
    List.contains_iff_mem]
  constructor
  · exact fun h f hf => h f.1 ⟨f, hf, rfl⟩
  · rintro h _ ⟨f, hf, rfl⟩
    exact h f hf

/-- A request is not refused exactly if it has no errors. -/
theorem refuseErrors_eq_ok {errors : List ParameterError} :
    refuseErrors errors = .ok () ↔ errors = [] := by
  unfold refuseErrors
  split
  · next h => exact ⟨fun _ => List.isEmpty_iff.1 h, fun _ => rfl⟩
  · next h => exact ⟨nofun, fun he => (h (by rw [he]; rfl)).elim⟩

end Request

end Remit
