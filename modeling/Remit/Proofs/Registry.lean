import Remit.Proofs.Request.Beneficiary
import Remit.Proofs.Store.Change

/-!
# What the registry does

The operations of the registry as results. Looking up an own active beneficiary finds the row of an
id exactly if it is an active one of the user (`result_ownedActive_of_mem`,
`result_ownedActive_of_forall`). Adding comes down to one insertion for the user (`result_add`,
`userId_draft`), and a change or a deactivation to one write of the row that was looked up
(`result_update`, `result_deactivate`).
-/

namespace Remit.Registry

variable {s : Store} {user : User} {id : Int} {fields : Fields}

/-! ## Looking up -/

/-- The active row of an id is found if it is the user's. -/
theorem result_ownedActive_of_mem (hs : s.UniqueIds) {r : BeneficiaryRow}
    (hr : r ∈ s.beneficiaries) (hk : r.IsKnown) (ha : r.isActiveOf user.id = true)
    (hid : fitsColumn r.id = true) :
    (ownedActive user r.id).result s = (.ok r.beneficiary, s) := by
  obtain ⟨hactive, hu⟩ := BeneficiaryRow.isActiveOf_iff.1 ha
  have howned : (r.beneficiary.isActive && r.beneficiary.ownedBy user.id) = true := by
    rw [BeneficiaryRow.isActive_beneficiary hk, hactive, Beneficiary.ownedBy,
      BeneficiaryRow.userId_beneficiary hk, hu]
    simp
  have hfind : (Update.read (·.findActive r.id)).result s = (.ok (some r.beneficiary), s) := by
    rw [Update.result_read, Store.findActive_of_mem hs hr hk hactive hid]
    rfl
  rw [ownedActive, Update.result_bind_of_ok hfind]
  simp only [howned, if_true]
  rfl

/-- A row that is missing, inactive or another user's is not found. -/
theorem result_ownedActive_of_forall (hs : s.WellFormed) (hid : fitsColumn id = true)
    (h : ∀ r ∈ s.beneficiaries, r.isActiveOf user.id = true → r.id ≠ id) :
    (ownedActive user id).result s = (.error (.refusal (.unknownBeneficiary (.int id))), s) := by
  by_cases hr : ∃ r ∈ s.beneficiaries, r.id = id ∧ r.isActive = true
  · obtain ⟨r, hr, rfl, ha⟩ := hr
    have hk := hs.types r hr
    have hother : (r.beneficiary.isActive && r.beneficiary.ownedBy user.id) = false := by
      rw [Beneficiary.ownedBy, BeneficiaryRow.userId_beneficiary hk, Bool.and_eq_false_iff]
      refine .inr (beq_eq_false_iff_ne.2 fun hu => ?_)
      exact h r hr (BeneficiaryRow.isActiveOf_iff.2 ⟨ha, hu⟩) rfl
    have hfind : (Update.read (·.findActive r.id)).result s = (.ok (some r.beneficiary), s) := by
      rw [Update.result_read, Store.findActive_of_mem hs.ids hr hk ha hid]
      rfl
    rw [ownedActive, Update.result_bind_of_ok hfind]
    simp only [hother]
    rfl
  · have hfind : (Update.read (·.findActive id)).result s = (.ok none, s) := by
      rw [Update.result_read, Store.findActive_of_forall hid]
      · rfl
      · intro r hm heq
        exact Bool.eq_false_iff.2 fun ha => hr ⟨r, hm, heq, ha⟩
    rw [ownedActive, Update.result_bind_of_ok hfind]
    rfl

/-- A number that fits no column is the id of nothing. -/
theorem result_ownedActive_of_not_fits (hid : fitsColumn id = false) :
    (ownedActive user id).result s = (.error (.breakdown .integerTooWide), s) := by
  refine Update.result_bind_of_error ?_
  rw [Update.result_read, Store.findActive, column_of_not_fits hid]
  rfl

/-- Looking up leaves the store as it is, and finds nothing but active rows of the user. -/
theorem ownedActive_cases (user : User) (id : Int) (s : Store) :
    (∃ e, (ownedActive user id).result s = (.error e, s)) ∨
    fitsColumn id = true ∧ ∃ r ∈ s.beneficiaries, r.id = id ∧ r.isActiveOf user.id = true ∧
      r.IsKnown ∧ (ownedActive user id).result s = (.ok r.beneficiary, s) := by
  have hread := Update.result_read (s := s) (·.findActive id)
  rcases s.findActive_cases id with ⟨e, h⟩ | h | ⟨hid, r, hr, rfl, hactive, hk, h⟩ <;>
    rw [h] at hread
  · exact .inl ⟨_, Update.result_bind_of_error hread⟩
  · exact .inl ⟨_, Update.result_bind_of_ok hread⟩
  · have howned : (r.beneficiary.isActive && r.beneficiary.ownedBy user.id) =
        r.isActiveOf user.id := by
      rw [BeneficiaryRow.isActive_beneficiary hk, Beneficiary.ownedBy,
        BeneficiaryRow.userId_beneficiary hk, BeneficiaryRow.isActiveOf]
    rw [ownedActive, Update.result_bind_of_ok hread]
    simp only [howned]
    cases ha : r.isActiveOf user.id with
    | false => exact .inl ⟨_, rfl⟩
    | true => exact .inr ⟨hid, r, hr, rfl, ha, hk, rfl⟩

/-! ## Adding -/

/-- What is stored for a request belongs to the user who asked for it. -/
theorem userId_draft {requested resolved : NewBeneficiary}
    (hrequested : Request.newBeneficiary user.id fields = .ok requested)
    (hresolved : Resolvers.default.resolve (savingsLookup s) requested = .ok resolved) :
    resolved.draft.userId = .int user.id := by
  obtain ⟨-, -, _, _, _, _, -, rfl⟩ := Resolvers.resolve_eq_ok hresolved
  rw [← (Request.isNewBeneficiary_of_ok hrequested).user]
  rfl

/-- A row that is added belongs to the user, and is active. -/
theorem isActiveOf_of_rowOf {requested resolved : NewBeneficiary} {r : BeneficiaryRow}
    (hrequested : Request.newBeneficiary user.id fields = .ok requested)
    (hresolved : Resolvers.default.resolve (savingsLookup s) requested = .ok resolved)
    (hrow : s.rowOf resolved.draft = .ok (.ok r)) : r.isActiveOf user.id = true := by
  obtain ⟨-, hactive, hu⟩ := Store.rowOf_eq_ok hrow
  exact BeneficiaryRow.isActiveOf_iff.2
    ⟨hactive, Cell.int_int (userId_draft hrequested hresolved ▸ hu)⟩

/-- Adding is one insertion, once the request is read and its account resolved. -/
theorem result_add : (add user fields).result s =
    match Request.newBeneficiary user.id fields with
    | .error e => (.error e, s)
    | .ok requested =>
      match Resolvers.default.resolve (savingsLookup s) requested with
      | .error e => (.error e, s)
      | .ok resolved => (Store.insert resolved.draft).result s := by
  unfold add
  cases hr : Request.newBeneficiary user.id fields with
  | error e => exact Update.result_bind_of_error rfl
  | ok requested =>
    have hread : (Update.ofAct (.lift (.ok requested))).result s = (.ok requested, s) :=
      Update.result_ofAct _
    have hresolve : Update.result
        (fun s => (Act.lift (Resolvers.default.resolve (savingsLookup s) requested), s)) s =
          (Resolvers.default.resolve (savingsLookup s) requested, s) := rfl
    refine (Update.result_bind_of_ok hread).trans ?_
    simp only
    cases hresolved : Resolvers.default.resolve (savingsLookup s) requested with
    | error e =>
      rw [hresolved] at hresolve
      exact Update.result_bind_of_error hresolve
    | ok resolved =>
      rw [hresolved] at hresolve
      refine (Update.result_bind_of_ok hresolve).trans ?_
      refine (Update.result_bind_of_quiet (g := id) fun id t => rfl).trans ?_
      rw [Except.map_id]
      rfl

/-- Adding fails, or the row of the resolved request is added. -/
theorem add_cases (user : User) (fields : Fields) (s : Store) :
    (∃ e, (add user fields).result s = (.error e, s)) ∨
    ∃ requested resolved r, Request.newBeneficiary user.id fields = .ok requested ∧
      Resolvers.default.resolve (savingsLookup s) requested = .ok resolved ∧
      s.rowOf resolved.draft = .ok (.ok r) ∧ s.Admits r ∧
      (add user fields).result s = (.ok r.id, s.withRow r) := by
  rw [result_add]
  cases hrequested : Request.newBeneficiary user.id fields with
  | error e => exact .inl ⟨e, rfl⟩
  | ok requested =>
    simp only
    cases hresolved : Resolvers.default.resolve (savingsLookup s) requested with
    | error e => exact .inl ⟨e, rfl⟩
    | ok resolved =>
      simp only
      rcases Store.insert_cases s resolved.draft with ⟨e, h⟩ | ⟨_, -, -, -, h⟩
      · exact .inl ⟨e, h⟩
      · obtain ⟨r, hrow, hadmits, hid, hs⟩ := Store.exists_row_of_insert h
        exact .inr ⟨requested, resolved, r, rfl, hresolved, hrow, hadmits, by rw [h, hid, hs]⟩

/-! ## Changing and deactivating -/

/-- A change is one write of the row that was looked up, unless nothing changes. -/
theorem result_update : (update user id fields).result s =
    match Request.beneficiaryUpdate fields with
    | .error e => (.error e, s)
    | .ok requested =>
      match (ownedActive user id).result s with
      | (.error e, t) => (.error e, t)
      | (.ok b, t) =>
        match requestedChanges b requested with
        | .error e => (.error (.breakdown e), t)
        | .ok changes =>
          if changes.isEmpty = true then (.ok changes, t)
          else (((Store.saveChanges id changes).result t).1.map fun _ => changes,
            ((Store.saveChanges id changes).result t).2) := by
  unfold update
  cases hr : Request.beneficiaryUpdate fields with
  | error e => exact Update.result_bind_of_error rfl
  | ok requested =>
    have hread : (Update.ofAct (.lift (.ok requested))).result s = (.ok requested, s) :=
      Update.result_ofAct _
    refine (Update.result_bind_of_ok hread).trans ?_
    rcases ho : (ownedActive user id).result s with ⟨e | b, t⟩
    · exact Update.result_bind_of_error ho
    refine (Update.result_bind_of_ok ho).trans ?_
    have hchanges : (Update.ofAct (.liftBreakdown (requestedChanges b requested))).result t =
        ((requestedChanges b requested).mapError .breakdown, t) := Update.result_ofAct _
    simp only
    cases hc : requestedChanges b requested with
    | error e =>
      rw [hc] at hchanges
      exact Update.result_bind_of_error hchanges
    | ok changes =>
      rw [hc] at hchanges
      refine (Update.result_bind_of_ok hchanges).trans ?_
      simp only
      split
      · rfl
      · exact Update.result_bind_of_quiet fun _ t => rfl

/-- A change fails, or writes what was supplied into an active row of the user. -/
theorem update_cases (user : User) (id : Int) (fields : Fields) (hs : s.UniqueIds) :
    (∃ e, (update user id fields).result s = (.error e, s)) ∨
    ∃ requested, Request.beneficiaryUpdate fields = .ok requested ∧
      ∃ r ∈ s.beneficiaries, r.id = id ∧ r.isActiveOf user.id = true ∧ r.IsKnown ∧
        fitsColumn id = true ∧ (update user id fields).result s =
          (.ok (requested.unlike r).fields, s.mapRow id fun _ => requested.onto r) := by
  rw [result_update]
  cases Request.beneficiaryUpdate fields with
  | error e => exact .inl ⟨e, rfl⟩
  | ok requested =>
    simp only
    rcases ownedActive_cases user id s with ⟨e, h⟩ | ⟨hid, r, hr, rfl, ha, hk, h⟩ <;> rw [h]
    · exact .inl ⟨e, rfl⟩
    simp only [requestedChanges_eq hk]
    cases hempty : (requested.unlike r).fields.isEmpty with
    | true =>
      have hself : (s.mapRow r.id fun _ => requested.onto r) = s := by
        rw [Request.BeneficiaryUpdate.onto_of_isEmpty hempty, Store.mapRow_self hs hr]
      rw [if_pos rfl]
      exact .inr ⟨requested, rfl, r, hr, rfl, ha, hk, hid, by rw [hself]⟩
    | false =>
      rw [if_neg Bool.false_ne_true]
      have hactive := (BeneficiaryRow.isActiveOf_iff.1 ha).1
      rcases Store.saveChanges_fields hs hr hactive hempty with ⟨⟨e, hw⟩, -⟩ | ⟨-, hw⟩ <;> rw [hw]
      · exact .inl ⟨e, rfl⟩
      · rw [Request.BeneficiaryUpdate.unlike_onto]
        exact .inr ⟨requested, rfl, r, hr, rfl, ha, hk, hid, rfl⟩

/-- A deactivation is one write of the row that was looked up. -/
theorem result_deactivate : (deactivate user id).result s =
    match (ownedActive user id).result s with
    | (.error e, t) => (.error e, t)
    | (.ok _, t) => (((Store.deactivate id).result t).1.map fun _ => id,
        ((Store.deactivate id).result t).2) := by
  unfold deactivate
  rcases ho : (ownedActive user id).result s with ⟨e | b, t⟩
  · exact Update.result_bind_of_error ho
  · rw [Update.result_bind_of_ok ho]
    exact Update.result_bind_of_quiet fun _ t => rfl

/-- A deactivation fails, or makes an active row of the user inactive. -/
theorem deactivate_cases (user : User) (id : Int) (s : Store) :
    (∃ e, (deactivate user id).result s = (.error e, s)) ∨
    ∃ r ∈ s.beneficiaries, r.id = id ∧ r.isActiveOf user.id = true ∧
      (deactivate user id).result s =
        (.ok id, s.mapRow id fun r => { r with isActive := false }) := by
  rw [result_deactivate]
  rcases ownedActive_cases user id s with ⟨e, h⟩ | ⟨hid, r, hr, heq, ha, -, h⟩ <;> rw [h]
  · exact .inl ⟨e, rfl⟩
  · simp only [Store.result_deactivate hid]
    exact .inr ⟨r, hr, heq, ha, rfl⟩

end Remit.Registry
