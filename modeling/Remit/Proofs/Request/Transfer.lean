import Remit.Proofs.Request.Form

/-!
# What a transfer request may be

A transfer request is either refused for its fields or read (`transferInput_cases`); nothing else
can happen to it. What a request is read as is told by `IsTransferInput`, in terms of its fields
alone (`transferInput_eq_ok_iff`): the amount is positive and finite, the description is carried as
it was given, only the account number loses the blanks around it, and the transfer is booked on the
given day. The request is decided by a form (`transferForm_decides`).
-/

namespace Remit.Request

/-- What a request without errors is read as. -/
structure IsTransferInput (fields : Fields) (day : Date) (input : TransferInput) : Prop where
  supported : ∀ f ∈ fields, f.1 ∈ transferParameters
  number : ∃ number, (fields.get "toAccountNumber").IsText 22 number ∧
    input.toAccountNumber = Text.strip number
  amount : (fields.get "transferAmount").amount? = some input.amount
  positive : 0 < input.amount.val.value
  description : (fields.get "transferDescription").IsText 200 input.description
  day : input.day = day

variable {fields : Fields} {day : Date} {input : TransferInput}

/-- A request is read as one thing. -/
theorem IsTransferInput.eq {input' : TransferInput} (h : IsTransferInput fields day input)
    (h' : IsTransferInput fields day input') : input = input' := by
  obtain ⟨number, hnumber, hto⟩ := h.number
  obtain ⟨number', hnumber', hto'⟩ := h'.number
  obtain rfl : number = number' := Option.some_inj.1 (hnumber.text.symm.trans hnumber'.text)
  have hamount := Option.some_inj.1 (h.amount.symm.trans h'.amount)
  have hdescription := Option.some_inj.1 (h.description.text.symm.trans h'.description.text)
  have hday := h.day.trans h'.day.symm
  have hnumbers := hto.trans hto'.symm
  cases input
  cases input'
  cases hamount
  cases hdescription
  cases hday
  cases hnumbers
  rfl

/-- What a transfer request is read as, with its amount as a number. -/
structure ReadsTransfer (fields : Fields) (day : Date) (input : TransferInput) : Prop extends
    IsTransferInput fields day input where
  finite : input.amount.val.isFinite = true
  denotes : (fields.get "transferAmount").Denotes input.amount.val.value

/-- The form of a transfer request. -/
def transferForm : Form where
  resource := transferResource
  supported := transferParameters
  parameters := [("transferAmount", [.notNull, .amount, .positiveAmount]),
    ("transferDescription", textRules 200), ("toAccountNumber", textRules 22)]

/-- A transfer request is decided by its form. -/
theorem transferForm_decides (fields : Fields) (day : Date) :
    transferForm.Decides fields (transferInput fields day) (ReadsTransfer fields day) := by
  obtain ⟨amount, hamount, eamount, ramount⟩ :=
    parameter_amountRules transferResource fields "transferAmount"
  obtain ⟨description, hdescription, edescription, rdescription⟩ :=
    parameter_textRules transferResource fields "transferDescription" 200
  obtain ⟨number, hnumber, enumber, rnumber⟩ :=
    parameter_textRules transferResource fields "toAccountNumber" 22
  simp only [transferInput, hamount, hdescription, hnumber]
  refine transferForm.decides_of_errors (Form.errors_eq_filterMap ?_) fun hsupported h => ?_
  · simp only [Form.entry_of_not_mayOmit transferForm rfl]
    exact .cons eamount (.cons edescription (.cons enumber .nil))
  · have hnone := Check.errors_eq_nil_iff.1 h
    obtain ⟨hread, hpos⟩ := ramount (hnone _ (by simp))
    refine ⟨_, rfl, ?_⟩
    exact {
      supported := hsupported
      number := ⟨_, rnumber (hnone _ (by simp)), rfl⟩
      amount := hread
      positive := hpos
      description := rdescription (hnone _ (by simp))
      day := rfl
      finite := Value.isFinite_of_amount? hread
      denotes := Value.denotes_iff_amount?.2 ⟨_, hread, rfl⟩ }

/-- What can be read breaks no rule. -/
theorem IsTransferInput.not_violates (h : IsTransferInput fields day input) :
    ∀ p ∈ transferForm.parameters, ¬ transferForm.Violates fields p := by
  obtain ⟨number, hnumber, -⟩ := h.number
  have hamount : (fields.get "transferAmount").Denotes input.amount.val.value :=
    Value.denotes_iff_amount?.2 ⟨_, h.amount, rfl⟩
  intro p hp
  rw [Form.not_violates_iff rfl]
  simp only [transferForm, List.mem_cons, List.not_mem_nil, or_false] at hp
  rcases hp with rfl | rfl | rfl
  · exact allows_amountRules_iff.2 ⟨_, h.positive, hamount⟩
  · exact allows_textRules_iff.2 ⟨_, h.description⟩
  · exact allows_textRules_iff.2 ⟨_, hnumber⟩

/-- A request is refused exactly if it is read as nothing. -/
theorem transferInput_spec (fields : Fields) (day : Date) :
    (∃ errors, transferInput fields day = .error (.refusal (.invalidRequest errors)) ∧
      ∀ input, ¬ IsTransferInput fields day input) ∨
    ∃ input, transferInput fields day = .ok input ∧ IsTransferInput fields day input := by
  have h := transferForm_decides fields day
  by_cases hrefused :
      ∃ errors, transferInput fields day = .error (.refusal (.invalidRequest errors))
  · obtain ⟨errors, he⟩ := hrefused
    refine .inl ⟨errors, he, fun input hi => ?_⟩
    rcases h.refused_iff.1 ⟨errors, he⟩ with ⟨f, hf, hunsupported⟩ | ⟨p, hp, hviolates⟩
    · exact hunsupported (hi.supported f hf)
    · exact hi.not_violates p hp hviolates
  · obtain ⟨input, hi, hreads⟩ := h.read hrefused
    exact .inr ⟨input, hi, hreads.toIsTransferInput⟩

/-- A transfer request is refused for its fields, or it is read. -/
theorem transferInput_cases (fields : Fields) (day : Date) :
    (∃ errors, transferInput fields day = .error (.refusal (.invalidRequest errors))) ∨
    ∃ input, transferInput fields day = .ok input ∧ IsTransferInput fields day input :=
  (transferInput_spec fields day).imp_left fun ⟨errors, h, _⟩ => ⟨errors, h⟩

/-- A request is read as exactly what its fields tell. -/
theorem transferInput_eq_ok_iff :
    transferInput fields day = .ok input ↔ IsTransferInput fields day input := by
  rcases transferInput_spec fields day with ⟨errors, he, hnone⟩ | ⟨input', hi, hinput⟩
  · rw [he]
    exact ⟨nofun, fun h => (hnone input h).elim⟩
  · rw [hi]
    constructor
    · rintro ⟨⟩
      exact hinput
    · exact fun h => by rw [hinput.eq h]

/-- What is known of a request that was read. -/
theorem transferInput_eq_ok (h : transferInput fields day = .ok input) :
    input.day = day ∧ (fields.get "transferDescription").text? = some input.description ∧
      input.amount.val.isFinite = true ∧ 0 < input.amount.val.value :=
  have hi := transferInput_eq_ok_iff.1 h
  ⟨hi.day, hi.description.text, Value.isFinite_of_amount? hi.amount, hi.positive⟩

end Remit.Request
