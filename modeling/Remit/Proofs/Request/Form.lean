import Remit.Proofs.Request.Check

/-!
# What a request is refused for

A request is read by a form: the parameters it may have, and those that are checked, each by its own
rules (`Form`). The errors of a request are those of the parameters that are not supported, in
increasing order, and after them the errors of the checked parameters in the order of the form, one
at most for each, which depends on the value of this parameter alone (`Form.Reports`). A form
decides a request if it is refused with these errors where there are any, and read where there are
none (`Form.Decides`).
-/

namespace Remit

/-! ## Unsupported parameters -/

/-- The error of a parameter that is not supported. -/
def unsupportedError (name : String) : ParameterError :=
  ⟨some name, "unsupported.parameter", s!"The parameter `{name}` is not supported."⟩

/-- What is left without repetitions has none. -/
theorem nodup_eraseDups {α : Type} [BEq α] [LawfulBEq α] : (l : List α) → l.eraseDups.Nodup
  | [] => by simp
  | a :: l => by
    rw [List.eraseDups_cons, List.nodup_cons]
    refine ⟨?_, nodup_eraseDups (l.filter fun b => !b == a)⟩
    rw [List.mem_eraseDups, List.mem_filter]
    simp
  termination_by l => l.length
  decreasing_by exact Nat.lt_succ_of_le (List.length_filter_le _ _)

/-- The unsupported parameters have one error each, in increasing order of their names. -/
theorem unsupportedErrors_spec (fields : Fields) (supported : List String) :
    ∃ names : List String, names.Pairwise (· < ·) ∧
      (∀ k, k ∈ names ↔ k ∉ supported ∧ ∃ f ∈ fields, f.1 = k) ∧
      unsupportedErrors fields supported = names.map unsupportedError := by
  refine ⟨((fields.map (·.1)).eraseDups.filter fun k => !supported.contains k).mergeSort (· ≤ ·),
    ?_, fun k => ?_, rfl⟩
  · have htrans : ∀ a b c : String, decide (a ≤ b) = true → decide (b ≤ c) = true →
        decide (a ≤ c) = true := fun a b c hab hbc =>
      decide_eq_true (String.le_trans (of_decide_eq_true hab) (of_decide_eq_true hbc))
    have htotal : ∀ a b : String, (decide (a ≤ b) || decide (b ≤ a)) = true := fun a b => by
      simpa using String.le_total a b
    have hnodup := (List.mergeSort_perm _ fun a b : String => decide (a ≤ b)).nodup_iff.2
      ((nodup_eraseDups (fields.map (·.1))).filter fun k => !supported.contains k)
    refine ((List.pairwise_mergeSort htrans htotal _).and hnodup).imp ?_
    rintro a b ⟨hle, hne⟩
    exact Std.lt_of_le_of_ne (of_decide_eq_true hle) hne
  · simp only [List.mem_mergeSort, List.mem_filter, List.mem_eraseDups, List.mem_map,
      Bool.not_eq_true', List.contains_eq_mem, decide_eq_false_iff_not]
    exact and_comm

/-! ## Forms -/

/-- What a request is read by. -/
structure Form where
  /-- The resource that its errors name. -/
  resource : String
  /-- The parameters that a request may have. -/
  supported : List String
  /-- The checked parameters and their rules, in the order of their errors. -/
  parameters : List (String × List Rule)
  /-- Whether a request may leave out checked parameters. -/
  mayOmit : Bool := false

namespace Form

variable (form : Form) (fields : Fields)

/-- The value that a parameter is checked by. An absent one counts as null, or is not checked if it
may be left out. -/
def given (name : String) : Option Value :=
  (fields.lookup name).or (if form.mayOmit then none else some .null)

/-- Whether the value of a parameter breaks one of its rules. -/
def Violates (p : String × List Rule) : Prop :=
  ∃ v, form.given fields p.1 = some v ∧ ∃ r ∈ p.2, ¬ r.Allows v

/-- The error of a checked parameter. -/
noncomputable def entry (p : String × List Rule) : Option ParameterError :=
  (form.given fields p.1).bind (complaint form.resource p.1 p.2)

/-- The errors of a request. -/
def Reports (errors : List ParameterError) : Prop :=
  ∃ names : List String, names.Pairwise (· < ·) ∧
    (∀ k, k ∈ names ↔ k ∉ form.supported ∧ ∃ f ∈ fields, f.1 = k) ∧
    errors = names.map unsupportedError ++ form.parameters.filterMap (form.entry fields)

/-- What a request comes to: it is refused exactly if it has an unsupported parameter or one that
breaks a rule, with all its errors; otherwise it is read. -/
structure Decides {α : Type} (outcome : Except Fault α) (Reads : α → Prop) : Prop where
  refused_iff : (∃ errors, outcome = .error (.refusal (.invalidRequest errors))) ↔
    (∃ f ∈ fields, f.1 ∉ form.supported) ∨ ∃ p ∈ form.parameters, form.Violates fields p
  errors : ∀ errors, outcome = .error (.refusal (.invalidRequest errors)) →
    form.Reports fields errors
  read : (¬ ∃ errors, outcome = .error (.refusal (.invalidRequest errors))) →
    ∃ a, outcome = .ok a ∧ Reads a

variable {form fields}

/-- An absent parameter that may not be left out is checked as null. -/
theorem given_of_not_mayOmit (h : form.mayOmit = false) (name : String) :
    form.given fields name = some (fields.get name) := by
  unfold given Fields.get
  cases fields.lookup name <;> simp [h]

/-- The error of a parameter that may not be left out is that of its value, or of null. -/
theorem entry_of_not_mayOmit (form : Form) (h : form.mayOmit = false) (p : String × List Rule) :
    form.entry fields p = complaint form.resource p.1 p.2 (fields.get p.1) := by
  rw [entry, given_of_not_mayOmit h, Option.bind_some]

/-- A parameter without an error breaks no rule. -/
theorem entry_eq_none_iff {p : String × List Rule} :
    form.entry fields p = none ↔ ¬ form.Violates fields p := by
  unfold entry Violates
  cases form.given fields p.1 with
  | none => simp
  | some v =>
    rw [Option.bind_some, complaint_eq_none_iff]
    simp

/-- Where nothing may be left out, a parameter is in order exactly if all its rules allow its
value. -/
theorem not_violates_iff (h : form.mayOmit = false) {p : String × List Rule} :
    ¬ form.Violates fields p ↔ ∀ r ∈ p.2, r.Allows (fields.get p.1) := by
  rw [Violates, given_of_not_mayOmit h]
  simp

/-- What is kept of a list is what is kept of its first member, and of the others. -/
theorem filterMap_cons_eq_append {α β : Type} (f : α → Option β) (a : α) (l : List α) :
    (a :: l).filterMap f = (f a).toList ++ l.filterMap f := by
  rw [List.filterMap_cons]
  cases f a <;> rfl

/-- Checks that give each parameter its error give all errors. -/
theorem errors_eq_filterMap {cs : List Check} {ps : List (String × List Rule)}
    (h : List.Forall₂ (fun c p => c.error = form.entry fields p) cs ps) :
    Check.errors cs = ps.filterMap (form.entry fields) := by
  induction h with
  | nil => rfl
  | cons hc _ ih =>
    unfold Check.errors at ih ⊢
    rw [filterMap_cons_eq_append, filterMap_cons_eq_append, hc, ih]

/-- A request that is refused for its errors, and read without them, is decided by its form. -/
theorem decides_of_errors {α : Type} {Reads : α → Prop} {errors : List ParameterError}
    {rest : Except Fault α} (herrors : errors = form.parameters.filterMap (form.entry fields))
    (hread : (∀ f ∈ fields, f.1 ∈ form.supported) → errors = [] → ∃ a, rest = .ok a ∧ Reads a) :
    form.Decides fields
      (Request.refuseErrors (unsupportedErrors fields form.supported ++ errors) >>= fun _ => rest)
      Reads := by
  have hnil : unsupportedErrors fields form.supported ++ errors = [] ↔
      ¬ ((∃ f ∈ fields, f.1 ∉ form.supported) ∨
        ∃ p ∈ form.parameters, form.Violates fields p) := by
    rw [List.append_eq_nil_iff, Request.unsupportedErrors_eq_nil_iff, herrors,
      List.filterMap_eq_nil_iff]
    simp only [entry_eq_none_iff]
    push Not
    rfl
  by_cases h : unsupportedErrors fields form.supported ++ errors = []
  · obtain ⟨hsupported, hno⟩ := List.append_eq_nil_iff.1 h
    obtain ⟨a, ha, hreads⟩ := hread (Request.unsupportedErrors_eq_nil_iff.1 hsupported) hno
    rw [Request.refuseErrors_eq_ok.2 h, ha]
    refine ⟨⟨?_, fun hbroken => (hnil.1 h hbroken).elim⟩, ?_, fun _ => ⟨a, rfl, hreads⟩⟩
    · rintro ⟨_, he⟩
      cases he
    · rintro _ he
      cases he
  · have hrefused : Request.refuseErrors (unsupportedErrors fields form.supported ++ errors) =
        .error (.refusal (.invalidRequest
          (unsupportedErrors fields form.supported ++ errors))) := by
      rw [Request.refuseErrors, if_neg (by simpa using h)]
    rw [hrefused]
    refine ⟨⟨fun _ => not_not.1 fun hno => h (hnil.2 hno), fun _ => ⟨_, rfl⟩⟩, ?_,
      fun hno => (hno ⟨_, rfl⟩).elim⟩
    rintro _ he
    cases he
    obtain ⟨names, hsorted, hmem, hunsupported⟩ := unsupportedErrors_spec fields form.supported
    exact ⟨names, hsorted, hmem, by rw [hunsupported, herrors]⟩

/-- A request that is read is read as its form says. -/
theorem Decides.reads {α : Type} {Reads : α → Prop} {outcome : Except Fault α} {a : α}
    (h : form.Decides fields outcome Reads) (ho : outcome = .ok a) : Reads a := by
  subst ho
  obtain ⟨a', ha, hreads⟩ := h.read (by rintro ⟨_, he⟩; cases he)
  cases ha
  exact hreads

end Form

end Remit
