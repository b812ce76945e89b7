import Remit.Proofs.Operation

/-!
# Where stored beneficiaries come from

A row is `ResolvedIn` a bank if it is what the bank says about its account number: the open savings
account of that number, with its client and office. It `IsValid` if its name and its limit are such
as a request may have. A store that grew from an empty table by the operations of users, while the
bank stayed as it was, is `GrownOver` the bank: all its rows are resolved in it and valid. Each
operation keeps it so (`GrownOver.run`), since every row of the store after it was there before, up
to its activity and the fields of an update, or was just added (`exists_row_of_run`).

Rows of one number then stand for one account (`ResolvedIn.key_eq`), and, where ids of savings
accounts are keys, rows of two numbers never do (`ResolvedIn.number_eq`).
-/

namespace Remit

/-- A row holds what a bank says about its account number. -/
structure BeneficiaryRow.ResolvedIn (r : BeneficiaryRow) (b : Bank) : Prop where
  institution : r.institutionName = "LOCAL"
  savings : r.accountType = AccountType.savings.number
  found : ∃ account client, r.accountId = some account ∧ fitsColumn account = true ∧
    r.clientId = some client ∧
    b.findSavings r.accountNumber = some ⟨account, r.accountNumber, some client, r.officeId⟩

/-- The name of a row is a text of limited length, and its limit, if it has one, is positive. -/
structure BeneficiaryRow.IsValid (r : BeneficiaryRow) : Prop where
  notBlank : Text.isBlankText r.name = false
  short : (r.name.length : Int) ≤ 50
  positive : ∀ limit, r.transferLimit = some limit → 0 < limit

namespace Bank

variable {b : Bank} {number : String} {record : SavingsRecord}

/-- The record of a number is that of a savings account with this number. -/
theorem exists_of_findSavings (h : b.findSavings number = some record) :
    record.accountNumber = number ∧
      ∃ a ∈ b.savings, a.number = some number ∧ a.id = record.accountId := by
  obtain ⟨a, hhead, rfl⟩ := Option.map_eq_some_iff.1 h
  obtain ⟨hm, hp⟩ := List.mem_filter.1 (List.mem_of_mem_head? hhead)
  simp only [Bool.and_eq_true, beq_iff_eq] at hp
  refine ⟨?_, a, mem_byId.1 hm, hp.1.1, ?_⟩ <;> rw [savingsRecord] <;> split <;> rfl

/-- Where ids are keys, a savings account is found by one number only. -/
theorem findSavings_number_eq (hb : (b.savings.map (·.id)).Nodup) {number' : String}
    {record' : SavingsRecord} (h : b.findSavings number = some record)
    (h' : b.findSavings number' = some record') (hid : record.accountId = record'.accountId) :
    number = number' := by
  obtain ⟨-, a, ha, hn, hai⟩ := exists_of_findSavings h
  obtain ⟨-, a', ha', hn', hai'⟩ := exists_of_findSavings h'
  obtain rfl : a = a' := eq_of_id_eq hb ha ha' (hai.trans (hid.trans hai'.symm))
  exact Option.some_inj.1 (hn.symm.trans hn')

end Bank

namespace BeneficiaryRow.ResolvedIn

variable {r r' : BeneficiaryRow} {b : Bank}

/-- A resolved row is of a known kind … -/
theorem isKnown (h : r.ResolvedIn b) : r.IsKnown := .inr h.savings

/-- … and has an account. -/
theorem isSome_accountId (h : r.ResolvedIn b) : r.accountId.isSome = true := by
  obtain ⟨_, _, hid, -⟩ := h.found
  rw [hid]
  rfl

/-- What a row may become is resolved as before. -/
theorem of_becomes (h : r.ResolvedIn b) (hr : r.Becomes r') : r'.ResolvedIn b := by
  rw [hr.fixed]
  exact ⟨h.institution, h.savings, h.found⟩

/-- Rows of one number stand for one account. -/
theorem key_eq (h : r.ResolvedIn b) (h' : r'.ResolvedIn b)
    (hn : r.accountNumber = r'.accountNumber) : r.handle.key = r'.handle.key := by
  obtain ⟨account, client, hid, -, hclient, hfound⟩ := h.found
  obtain ⟨account', client', hid', -, hclient', hfound'⟩ := h'.found
  rw [hn, hfound'] at hfound
  simp only [Option.some.injEq, SavingsRecord.mk.injEq] at hfound
  obtain ⟨haccount, -, hc, hoffice⟩ := hfound
  simp only [AccountHandle.key, handle, h.savings, h'.savings, hid, hid', hclient, hclient',
    haccount, hc, hoffice]

/-- Rows of one account have one number. -/
theorem number_eq (hb : (b.savings.map (·.id)).Nodup) (h : r.ResolvedIn b) (h' : r'.ResolvedIn b)
    (hid : r.accountId = r'.accountId) : r.accountNumber = r'.accountNumber := by
  obtain ⟨account, client, haccount, -, -, hfound⟩ := h.found
  obtain ⟨account', client', haccount', -, -, hfound'⟩ := h'.found
  refine Bank.findSavings_number_eq hb hfound hfound' ?_
  exact Option.some_inj.1 (haccount.symm.trans (hid.trans haccount'))

end BeneficiaryRow.ResolvedIn

/-- A valid row stays so with the fields of an update. -/
theorem BeneficiaryRow.IsValid.onto {r : BeneficiaryRow} (h : r.IsValid) {fields : Fields}
    {u : Request.BeneficiaryUpdate} (hu : Request.IsBeneficiaryUpdate fields u) :
    (u.onto r).IsValid := by
  obtain ⟨name, limit⟩ := u
  have hname : Text.isBlankText (name.onto r.name) = false ∧
      ((name.onto r.name).length : Int) ≤ 50 := by
    cases name with
    | absent => exact ⟨h.notBlank, h.short⟩
    | given n => exact ⟨(hu.name n rfl).notBlank, (hu.name n rfl).length_le⟩
  refine ⟨hname.1, hname.2, fun i hi => ?_⟩
  cases limit with
  | absent => exact h.positive i hi
  | given l => exact hu.transferLimit i (congrArg Supplied.given hi)

/-- A row that is added for a request is valid. -/
theorem Registry.isValid_of_rowOf {s : Store} {user : Int} {fields : Fields}
    {requested resolved : NewBeneficiary} {r : BeneficiaryRow}
    (hrequested : Request.newBeneficiary user fields = .ok requested)
    (hresolved : Resolvers.default.resolve (savingsLookup s) requested = .ok resolved)
    (hrow : s.rowOf resolved.draft = .ok (.ok r)) : r.IsValid := by
  obtain ⟨-, -, _, _, _, _, -, rfl⟩ := Resolvers.resolve_eq_ok hresolved
  obtain ⟨_, _, rfl, -⟩ := Store.rowOf_newBeneficiary hrow
  have h := Request.isNewBeneficiary_of_ok hrequested
  exact ⟨h.name.notBlank, h.name.length_le, h.transferLimit⟩

/-- A row that is added for a request is resolved in the bank. -/
theorem Registry.resolvedIn_of_rowOf {s : Store} {requested resolved : NewBeneficiary}
    {r : BeneficiaryRow}
    (hresolved : Resolvers.default.resolve (savingsLookup s) requested = .ok resolved)
    (hrow : s.rowOf resolved.draft = .ok (.ok r)) :
    r.ResolvedIn s.bank ∧ r.accountNumber = requested.accountNumber := by
  obtain ⟨hlocal, hsavings, account, number, client, office, hlookup, rfl⟩ :=
    Resolvers.resolve_eq_ok hresolved
  obtain ⟨_, _, rfl, -, -, -, hfits⟩ := Store.rowOf_newBeneficiary hrow
  have hfound : s.bank.findSavings requested.accountNumber =
      some ⟨account, number, some client, office⟩ := Except.ok.inj hlookup
  obtain ⟨hnumber, -⟩ := Bank.exists_of_findSavings hfound
  cases hnumber
  exact ⟨⟨hlocal, congrArg AccountType.number hsavings,
    account, client, rfl, hfits _ rfl, rfl, hfound⟩, rfl⟩

namespace Store

variable {s : Store} {b : Bank}

/-- A table that grew over a bank. -/
structure GrownOver (s : Store) (b : Bank) : Prop where
  bank : s.bank = b
  consistent : s.Consistent
  resolved : ∀ r ∈ s.beneficiaries, r.ResolvedIn b
  valid : ∀ r ∈ s.beneficiaries, r.IsValid

/-- A store that grew over a bank is well formed. -/
theorem GrownOver.wellFormed (h : s.GrownOver b) : s.WellFormed :=
  ⟨h.consistent.ids, fun r hr => (h.resolved r hr).isKnown⟩

/-- A store without rows has grown over its bank. -/
theorem grownOver_empty (b : Bank) : ({ bank := b } : Store).GrownOver b where
  bank := rfl
  consistent := ⟨List.nodup_nil, fun _ hr => absurd hr List.not_mem_nil⟩
  resolved _ hr := absurd hr List.not_mem_nil
  valid _ hr := absurd hr List.not_mem_nil

/-- No write reaches the tables of the bank. -/
theorem bank_apply (hs : s.UniqueIds) (w : Write) : (w.apply s).bank = s.bank := by
  rcases apply_cases hs w with h | ⟨_, -, -, h⟩ | ⟨_, _, -, h⟩ <;> rw [h] <;> rfl

/-- A row after an operation was there before, up to its activity and the fields of an update, or it
was added for a request. -/
theorem exists_row_of_run (hs : s.UniqueIds) (user : User) (op : Operation) {r : BeneficiaryRow}
    (hr : r ∈ (op.run user s).2.beneficiaries) :
    (∃ r' ∈ s.beneficiaries, r'.Becomes r ∧ (r'.IsValid → r.IsValid)) ∨
    ∃ fields requested resolved, Request.newBeneficiary user.id fields = .ok requested ∧
      Resolvers.default.resolve (Registry.savingsLookup s) requested = .ok resolved ∧
        s.rowOf resolved.draft = .ok (.ok r) := by
  have hold : ∀ {id : Int} {f : BeneficiaryRow → BeneficiaryRow},
      (∀ r ∈ s.beneficiaries, r.id = id → r.Becomes (f r) ∧ (r.IsValid → (f r).IsValid)) →
        r ∈ (s.mapRow id f).beneficiaries →
          ∃ r' ∈ s.beneficiaries, r'.Becomes r ∧ (r'.IsValid → r.IsValid) := by
    intro id f hf hm
    obtain ⟨r', hr', rfl⟩ := mem_mapRow.1 hm
    refine ⟨r', hr', ?_⟩
    split
    · next hid => exact hf r' hr' hid
    · exact ⟨.refl r', fun hv => hv⟩
  cases op with
  | add fields =>
    simp only [Operation.run] at hr
    rcases Registry.add_cases user fields s with
      ⟨e, h⟩ | ⟨requested, resolved, row, hrequested, hresolved, hrow, -, h⟩ <;> rw [h] at hr
    · exact .inl ⟨r, hr, .refl r, fun hv => hv⟩
    · rcases mem_withRow.1 hr with hm | rfl
      · exact .inl ⟨r, hm, .refl r, fun hv => hv⟩
      · exact .inr ⟨fields, requested, resolved, hrequested, hresolved, hrow⟩
  | update id fields =>
    simp only [Operation.run] at hr
    rcases Registry.update_cases user id fields hs with
      ⟨e, h⟩ | ⟨requested, hrequested, row, hrow, rfl, -, -, -, h⟩ <;> rw [h] at hr
    · exact .inl ⟨r, hr, .refl r, fun hv => hv⟩
    · refine .inl (hold (fun r' hr' hid => ?_) hr)
      obtain rfl := eq_of_id_eq hs hr' hrow hid
      exact ⟨⟨rfl, fun ha => ha⟩, fun hv => hv.onto (Request.isBeneficiaryUpdate_of_ok hrequested)⟩
  | deactivate id =>
    simp only [Operation.run] at hr
    rcases Registry.deactivate_cases user id s with ⟨e, h⟩ | ⟨row, -, -, -, h⟩ <;> rw [h] at hr
    · exact .inl ⟨r, hr, .refl r, fun hv => hv⟩
    · refine .inl (hold (fun r' _ _ => ⟨⟨rfl, fun _ => rfl⟩, fun hv => ?_⟩) hr)
      exact ⟨hv.notBlank, hv.short, hv.positive⟩
  | listActive | retrieveAll | transferLimit | beneficiaryTemplate | template | authorize =>
    exact .inl ⟨r, hr, .refl r, fun hv => hv⟩

/-- An operation keeps all rows resolved and valid. -/
theorem GrownOver.run (h : s.GrownOver b) (user : User) (op : Operation) :
    (op.run user s).2.GrownOver b := by
  have hwrite := op.exists_write user s
  have hrows : ∀ r ∈ (op.run user s).2.beneficiaries, r.ResolvedIn b ∧ r.IsValid := by
    intro r hr
    rcases exists_row_of_run h.consistent.ids user op hr with
      ⟨r', hr', hbecomes, hvalid⟩ | ⟨_, requested, resolved, hrequested, hresolved, hrow⟩
    · exact ⟨(h.resolved r' hr').of_becomes hbecomes, hvalid (h.valid r' hr')⟩
    · exact ⟨h.bank ▸ (Registry.resolvedIn_of_rowOf hresolved hrow).1,
        Registry.isValid_of_rowOf hrequested hresolved hrow⟩
  refine ⟨?_, ?_, fun r hr => (hrows r hr).1, fun r hr => (hrows r hr).2⟩
  · rcases hwrite with hw | ⟨w, hw⟩ <;> rw [hw]
    · exact h.bank
    · rw [bank_apply h.consistent.ids, h.bank]
  · rcases hwrite with hw | ⟨w, hw⟩ <;> rw [hw]
    · exact h.consistent
    · exact h.consistent.apply w

/-- Whatever users do, all rows stay resolved and valid. -/
theorem GrownOver.afterOperations (h : s.GrownOver b) (ops : List (User × Operation)) :
    (s.afterOperations ops).GrownOver b := by
  induction ops using List.reverseRecOn with
  | nil => exact h
  | append_singleton ops op ih =>
    rw [afterOperations_concat]
    exact ih.run op.1 op.2

end Store

end Remit
