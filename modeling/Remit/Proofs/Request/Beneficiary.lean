import Remit.Proofs.Request.Form

/-!
# What a new or changed beneficiary may be

A request for a new beneficiary that is read keeps its texts as they were given, all of limited
length and none of them blank, and a limit only if it is positive (`Request.IsNewBeneficiary`); the
same goes for what a request for a change supplies (`Request.IsBeneficiaryUpdate`). Both are decided
by a form (`newBeneficiaryForm_decides`, `beneficiaryUpdateForm_decides`), and what is read stands
for the numbers that were given (`Request.ReadsNew`, `Request.ReadsUpdate`). Only a savings account
held here is resolved, and the bank's record of it fills in the account, the client and the office
(`Resolvers.resolve_eq_ok`).
-/

namespace Remit

namespace Request

/-- What a request without errors is read as, for a user. -/
structure IsNewBeneficiary (user : Int) (fields : Fields) (b : NewBeneficiary) : Prop where
  user : b.userId = user
  name : (fields.get "name").IsText 50 b.name
  accountName : (fields.get "accountName").IsText 50 b.accountName
  institutionName : (fields.get "institutionName").IsText 50 b.institutionName
  accountNumber : (fields.get "accountNumber").IsText 20 b.accountNumber
  institutionCode : b.institutionCode = fields.get "institutionCode"
  currencyCode : b.currencyCode = fields.get "currencyCode"
  transferLimit : ∀ i, b.transferLimit = some i → 0 < i

/-- What a request for a change without errors is read as. -/
structure IsBeneficiaryUpdate (fields : Fields) (u : BeneficiaryUpdate) : Prop where
  name : ∀ s, u.name = .given s → (fields.get "name").IsText 50 s
  transferLimit : ∀ i, u.transferLimit = .given (some i) → 0 < i

/-- What a request for a new beneficiary is read as, with its numbers: the kind and the limit stand
for the numbers that were given, and no account is known yet. -/
structure ReadsNew (user : Int) (fields : Fields) (b : NewBeneficiary) : Prop extends
    IsNewBeneficiary user fields b where
  accountType : (fields.get "accountType").Denotes b.accountType.number
  limit : (fields.get "transferLimit").IsLimit b.transferLimit
  unresolved : b.accountId = none ∧ b.clientId = none ∧ b.officeId = none

/-- Whether a field of an update is read from a parameter: it is left alone exactly if the request
does not have the parameter. -/
def SuppliedBy {α : Type} (fields : Fields) (name : String) (Reads : Value → α → Prop) :
    Supplied α → Prop
  | .absent => fields.lookup name = none
  | .given a => ∃ v, fields.lookup name = some v ∧ Reads v a

/-- What a request for a change is read as. -/
structure ReadsUpdate (fields : Fields) (u : BeneficiaryUpdate) : Prop where
  name : SuppliedBy fields "name" (fun v s => v.IsText 50 s) u.name
  transferLimit : SuppliedBy fields "transferLimit" Value.IsLimit u.transferLimit

/-- The form of a request to add a beneficiary. -/
def newBeneficiaryForm : Form where
  resource := beneficiaryResource
  supported := newBeneficiaryParameters
  parameters := [("name", textRules 50), ("accountName", textRules 50),
    ("institutionName", textRules 50), ("accountNumber", textRules 20),
    ("accountType", accountTypeRules), ("transferLimit", transferLimitRules)]

/-- The form of a request to change a beneficiary. -/
def beneficiaryUpdateForm : Form where
  resource := beneficiaryResource
  supported := beneficiaryUpdateParameters
  parameters := [("name", textRules 50), ("transferLimit", transferLimitRules)]
  mayOmit := true

variable {fields : Fields} {user : Int} {b : NewBeneficiary}

/-- A request to add a beneficiary is decided by its form. -/
theorem newBeneficiaryForm_decides (user : Int) (fields : Fields) :
    newBeneficiaryForm.Decides fields (newBeneficiary user fields) (ReadsNew user fields) := by
  obtain ⟨name, hname, ename, rname⟩ := parameter_textRules beneficiaryResource fields "name" 50
  obtain ⟨accountName, haccountName, eaccountName, raccountName⟩ :=
    parameter_textRules beneficiaryResource fields "accountName" 50
  obtain ⟨institutionName, hinstitutionName, einstitutionName, rinstitutionName⟩ :=
    parameter_textRules beneficiaryResource fields "institutionName" 50
  obtain ⟨accountNumber, haccountNumber, eaccountNumber, raccountNumber⟩ :=
    parameter_textRules beneficiaryResource fields "accountNumber" 20
  obtain ⟨accountType, haccountType, eaccountType, raccountType⟩ :=
    parameter_accountTypeRules beneficiaryResource fields "accountType"
  obtain ⟨transferLimit, htransferLimit, etransferLimit, rtransferLimit⟩ :=
    parameter_transferLimitRules beneficiaryResource fields "transferLimit"
  simp only [newBeneficiary, hname, haccountName, hinstitutionName, haccountNumber, haccountType,
    htransferLimit]
  refine newBeneficiaryForm.decides_of_errors (Form.errors_eq_filterMap ?_) fun _ h => ?_
  · simp only [Form.entry_of_not_mayOmit newBeneficiaryForm rfl]
    exact .cons ename (.cons eaccountName (.cons einstitutionName (.cons eaccountNumber
      (.cons eaccountType (.cons etransferLimit .nil)))))
  · have hnone := Check.errors_eq_nil_iff.1 h
    obtain ⟨t, ht, hdenotes⟩ := raccountType (hnone _ (by simp))
    have hlimit := rtransferLimit (hnone _ (by simp))
    rw [ht]
    refine ⟨_, rfl, ?_⟩
    exact {
      user := rfl
      name := rname (hnone _ (by simp))
      accountName := raccountName (hnone _ (by simp))
      institutionName := rinstitutionName (hnone _ (by simp))
      accountNumber := raccountNumber (hnone _ (by simp))
      institutionCode := rfl
      currencyCode := rfl
      transferLimit := fun _ hi => hlimit.pos hi
      accountType := hdenotes
      limit := hlimit
      unresolved := ⟨rfl, rfl, rfl⟩ }

/-- What is known of a request that was read. -/
theorem isNewBeneficiary_of_ok (h : newBeneficiary user fields = .ok b) :
    IsNewBeneficiary user fields b :=
  ((newBeneficiaryForm_decides user fields).reads h).toIsNewBeneficiary

/-- A parameter that may be left out is checked if the request has it. -/
theorem optionalParameter_spec {name : String} {rules : List Rule} {Q : Check → Prop}
    (h : ∃ c, parameter beneficiaryResource fields name rules = .ok c ∧
      c.error = complaint beneficiaryResource name rules (fields.get name) ∧
      (c.error = none → Q c)) :
    ∃ o, optionalParameter beneficiaryResource fields name rules = .ok o ∧
      Check.errors o.toList = (beneficiaryUpdateForm.entry fields (name, rules)).toList ∧
      (Check.errors o.toList = [] → match o with
        | none => fields.lookup name = none
        | some c => fields.lookup name = some (fields.get name) ∧ Q c) := by
  obtain ⟨c, hc, herror, hread⟩ := h
  unfold optionalParameter Fields.has Form.entry Form.given
  cases hv : fields.lookup name with
  | none => exact ⟨none, rfl, rfl, fun _ => rfl⟩
  | some v =>
    have hget : fields.get name = v := by rw [Fields.get, hv, Option.getD_some]
    refine ⟨some c, by rw [hc]; rfl, ?_, fun hnil => ⟨by rw [hget], hread ?_⟩⟩
    · rw [Option.some_or, Option.bind_some, ← hget]
      change Check.errors [c] = Option.toList (complaint beneficiaryResource name rules _)
      rw [← herror]
      cases he : c.error <;> simp [Check.errors, he]
    · exact Check.errors_eq_nil_iff.1 hnil c (by simp)

/-- A request to change a beneficiary is decided by its form. -/
theorem beneficiaryUpdateForm_decides (fields : Fields) :
    beneficiaryUpdateForm.Decides fields (beneficiaryUpdate fields) (ReadsUpdate fields) := by
  obtain ⟨name, hname, ename, rname⟩ := optionalParameter_spec
    (parameter_textRules beneficiaryResource fields "name" 50)
  obtain ⟨transferLimit, htransferLimit, etransferLimit, rtransferLimit⟩ := optionalParameter_spec
    (parameter_transferLimitRules beneficiaryResource fields "transferLimit")
  simp only [beneficiaryUpdate, hname, htransferLimit]
  have herrors : Check.errors (name.toList ++ transferLimit.toList) =
      Check.errors name.toList ++ Check.errors transferLimit.toList := List.filterMap_append
  refine beneficiaryUpdateForm.decides_of_errors ?_ fun _ h => ⟨_, rfl, ?_, ?_⟩
  · rw [herrors, ename, etransferLimit, beneficiaryUpdateForm, Form.filterMap_cons_eq_append,
      Form.filterMap_cons_eq_append, List.filterMap_nil, List.append_nil]
  · have h := rname (List.append_eq_nil_iff.1 (herrors.symm.trans h)).1
    cases name with
    | none => exact h
    | some c => exact ⟨_, h.1, h.2⟩
  · have h := rtransferLimit (List.append_eq_nil_iff.1 (herrors.symm.trans h)).2
    cases transferLimit with
    | none => exact h
    | some c => exact ⟨_, h.1, h.2⟩

/-- What is known of a request for a change that was read. -/
theorem isBeneficiaryUpdate_of_ok {u : BeneficiaryUpdate} (h : beneficiaryUpdate fields = .ok u) :
    IsBeneficiaryUpdate fields u := by
  obtain ⟨hname, hlimit⟩ := (beneficiaryUpdateForm_decides fields).reads h
  constructor
  · intro s hs
    rw [hs] at hname
    obtain ⟨v, hv, htext⟩ := hname
    rw [Fields.get, hv]
    exact htext
  · intro i hi
    rw [hi] at hlimit
    obtain ⟨v, -, hv⟩ := hlimit
    exact hv.pos rfl

end Request

/-- Only a savings account held here is resolved, with the record of its number. -/
theorem Resolvers.resolve_eq_ok {lookup : SavingsLookup} {b b' : NewBeneficiary}
    (h : Resolvers.default.resolve lookup b = .ok b') :
    b.institutionName = "LOCAL" ∧ b.accountType = .savings ∧
      ∃ account number client office,
        lookup b.accountNumber = .ok (some ⟨account, number, some client, office⟩) ∧
        b' = b.withAccount account client office := by
  have hlocal : b.institutionName = "LOCAL" := by
    by_contra hname
    rw [resolve, InstitutionKind.ofName, if_neg hname] at h
    cases h
  rw [resolve, InstitutionKind.ofName, if_pos hlocal] at h
  change b.resolveLocal lookup = .ok b' at h
  unfold NewBeneficiary.resolveLocal at h
  split at h
  · cases h
  · next hsavings =>
    split at h
    · cases h
    · next account number client office hfound =>
      cases h
      exact ⟨hlocal, hsavings, account, number, client, office, hfound, rfl⟩
    · cases h

end Remit
