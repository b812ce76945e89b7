import Mathlib
import Remit.Proofs.Operation
import Remit.Proofs.Store.Agreement

/-!
# Users do not see each other

Two runs of one `Operation`, from stores that agree for its user (`Store.AgreeFor`), are `Alike`:
they end with the same answer or the same error, and the stores agree again; only an added
beneficiary may get another id (`run_alike`). So neither rows of other users nor inactive rows can
be noticed: a store agrees with what is left of it when all of them are taken out
(`agreeFor_restrict`).
-/

namespace Remit

/-- Two ends of an operation that its user cannot tell apart: one answer or one error, and stores
that agree for the user. An added row may have got different ids. -/
inductive Alike (user : Int) : Except Fault Answer × Store → Except Fault Answer × Store → Prop
  | same {o} {s t : Store} (h : s.AgreeFor user t) : Alike user (o, s) (o, t)
  | added {s t : Store} {r : BeneficiaryRow} {i j : Int} (h : s.AgreeFor user t) :
      Alike user (.ok (.added i), s.withRow { r with id := i })
        (.ok (.added j), t.withRow { r with id := j })

variable {s t : Store} {user : User}

/-! ## Reading -/

/-- The accounts to transfer to are the same in stores that agree. -/
theorem beneficiaryAccounts_congr (h : s.AgreeFor user.id t) (hs : s.WellFormed)
    (ht : t.WellFormed) :
    Template.beneficiaryAccounts s user = Template.beneficiaryAccounts t user := by
  rw [Template.beneficiaryAccounts, Template.beneficiaryAccounts, h.listActive_eq hs ht]

/-- The accounts to transfer from are the same, … -/
theorem selfAccounts_congr (h : s.AgreeFor user.id t) :
    Template.selfAccounts s user = Template.selfAccounts t user := by
  rw [Template.selfAccounts, Template.selfAccounts, h.bank]

/-- … so are the accounts that a transfer of a kind may go to, … -/
theorem destinations_congr (h : s.AgreeFor user.id t) (hs : s.WellFormed) (ht : t.WellFormed)
    (type : TransferType) :
    Template.destinations s user type = Template.destinations t user type := by
  cases type with
  | self => exact selfAccounts_congr h
  | tpt =>
    show Template.thirdPartyDestinations s user = Template.thirdPartyDestinations t user
    rw [Template.thirdPartyDestinations, Template.thirdPartyDestinations,
      beneficiaryAccounts_congr h hs ht]

/-- … and so are the candidates for its destination. -/
theorem candidates_congr (h : s.AgreeFor user.id t) (hs : s.WellFormed) (ht : t.WellFormed)
    (type : TransferType) : Template.candidates s user type = Template.candidates t user type := by
  cases type with
  | self => exact congrArg (AccountHandle.sorted <$> ·) (selfAccounts_congr h)
  | tpt => exact beneficiaryAccounts_congr h hs ht

/-- Authorization gets the same answers from stores that agree. -/
theorem ofStore_congr (h : s.AgreeFor user.id t) (hs : s.WellFormed) (ht : t.WellFormed) :
    Facts.ofStore s user = Facts.ofStore t user := by
  have hsource : Template.sourceAccount s user = Template.sourceAccount t user := by
    rw [Template.sourceAccount, Template.sourceAccount, selfAccounts_congr h]
  simp only [Facts.ofStore, hsource, selfAccounts_congr h, candidates_congr h hs ht,
    destinations_congr h hs ht, h.transferLimit_eq, h.bank]

/-! ## Writing -/

/-- An own active row is found in both stores, and what is no such row in neither. -/
theorem result_ownedActive_congr (h : s.AgreeFor user.id t) (hs : s.WellFormed)
    (ht : t.WellFormed) (id : Int) :
    (∃ e, (Registry.ownedActive user id).result s = (.error e, s) ∧
      (Registry.ownedActive user id).result t = (.error e, t)) ∨
    ∃ r ∈ s.beneficiaries, r.isActiveOf user.id = true ∧ r.id = id ∧
      (Registry.ownedActive user id).result s = (.ok r.beneficiary, s) ∧
      (Registry.ownedActive user id).result t = (.ok r.beneficiary, t) := by
  cases hid : fitsColumn id with
  | false =>
    exact .inl ⟨_, Registry.result_ownedActive_of_not_fits hid,
      Registry.result_ownedActive_of_not_fits hid⟩
  | true =>
    by_cases hr : ∃ r ∈ s.beneficiaries, r.isActiveOf user.id = true ∧ r.id = id
    · obtain ⟨r, hr, ha, rfl⟩ := hr
      have hk := hs.types r hr
      exact .inr ⟨r, hr, ha, rfl, Registry.result_ownedActive_of_mem hs.ids hr hk ha hid,
        Registry.result_ownedActive_of_mem ht.ids ((h.rows r ha).1 hr) hk ha hid⟩
    · have hnone : ∀ r ∈ s.beneficiaries, r.isActiveOf user.id = true → r.id ≠ id :=
        fun r hm ha heq => hr ⟨r, hm, ha, heq⟩
      exact .inl ⟨_, Registry.result_ownedActive_of_forall hs hid hnone,
        Registry.result_ownedActive_of_forall ht hid fun r hm ha =>
          hnone r ((h.rows r ha).2 hm) ha⟩

/-- Adding a beneficiary goes alike in stores that agree on the user, … -/
theorem add_alike (h : s.AgreeFor user.id t) (fields : Fields) :
    Alike user.id ((Operation.add fields).run user s) ((Operation.add fields).run user t) := by
  simp only [Operation.run, Registry.result_add]
  cases hr : Request.newBeneficiary user.id fields with
  | error e => exact .same h
  | ok requested =>
    have hlookup : Registry.savingsLookup s = Registry.savingsLookup t := by
      unfold Registry.savingsLookup
      rw [h.bank]
    simp only [hlookup]
    cases hresolved : Resolvers.default.resolve (Registry.savingsLookup t) requested with
    | error e => exact .same h
    | ok resolved =>
      have hu := Registry.userId_draft hr hresolved
      simp only
      rcases h.insert hu with ⟨e, he, he'⟩ | ⟨r, i, j, hi, hj⟩
      · rw [he, he']
        exact .same h
      · rw [hi, hj]
        exact .added h

/-- … so does changing one, … -/
theorem update_alike (h : s.AgreeFor user.id t) (hs : s.WellFormed) (ht : t.WellFormed) (id : Int)
    (fields : Fields) : Alike user.id ((Operation.update id fields).run user s)
      ((Operation.update id fields).run user t) := by
  simp only [Operation.run, Registry.result_update]
  cases hr : Request.beneficiaryUpdate fields with
  | error e => exact .same h
  | ok requested =>
    simp only
    rcases result_ownedActive_congr h hs ht id with ⟨e, he, he'⟩ | ⟨r, hm, ha, rfl, hb, hb'⟩
    · rw [he, he']
      exact .same h
    · rw [hb, hb']
      simp only
      cases Registry.requestedChanges r.beneficiary requested with
      | error e => exact .same h
      | ok changes =>
        simp only
        split
        · exact .same h
        · obtain ⟨o, s', t', hs', ht', h'⟩ := h.saveChanges hs.ids ht.ids hm ha changes
          rw [hs', ht']
          exact .same h'

/-- … and so does deactivating one. -/
theorem deactivate_alike (h : s.AgreeFor user.id t) (hs : s.WellFormed) (ht : t.WellFormed)
    (id : Int) : Alike user.id ((Operation.deactivate id).run user s)
      ((Operation.deactivate id).run user t) := by
  simp only [Operation.run, Registry.result_deactivate]
  rcases result_ownedActive_congr h hs ht id with ⟨e, he, he'⟩ | ⟨r, hm, ha, rfl, hb, hb'⟩
  · rw [he, he']
    exact .same h
  · obtain ⟨o, s', t', hs', ht', h'⟩ := h.deactivate hs.ids ht.ids hm ha
    rw [hb, hb']
    simp only
    rw [hs', ht']
    exact .same h'

/-! ## Every operation -/

/-- A store with nothing but the active rows of a user. -/
def Store.restrict (s : Store) (user : Int) : Store :=
  { s with beneficiaries := s.beneficiaries.filter (·.isActiveOf user) }

/-- Rows of others and inactive rows do not count. -/
theorem agreeFor_restrict (s : Store) (user : Int) : s.AgreeFor user (s.restrict user) :=
  ⟨rfl, fun r ha => by simp [Store.restrict, ha]⟩

/-- A store without the rows of other users stays well formed. -/
theorem Store.WellFormed.restrict (h : s.WellFormed) (user : Int) : (s.restrict user).WellFormed :=
  ⟨h.ids.filter _, fun r hr => h.types r (List.mem_filter.1 hr).1⟩

/-- No operation of a user tells two stores apart that agree for that user. -/
theorem run_alike (user : User) (s t : Store) (hs : s.WellFormed) (ht : t.WellFormed)
    (h : s.AgreeFor user.id t) (op : Operation) :
    Alike user.id (op.run user s) (op.run user t) := by
  cases op with
  | add fields => exact add_alike h fields
  | update id fields => exact update_alike h hs ht id fields
  | deactivate id => exact deactivate_alike h hs ht id
  | listActive =>
    simp only [Operation.run, Registry.listActive, h.listActive_eq hs ht]
    exact .same h
  | retrieveAll =>
    simp only [Operation.run, Registry.retrieveAll, Registry.listActive, h.listActive_eq hs ht]
    exact .same h
  | transferLimit account type =>
    simp only [Operation.run, Registry.transferLimit, h.transferLimit_eq]
    exact .same h
  | beneficiaryTemplate => exact .same h
  | template type =>
    simp only [Operation.run, Template.ofStore, selfAccounts_congr h, destinations_congr h hs ht]
    exact .same h
  | authorize type fields day settings =>
    simp only [Operation.run, ofStore_congr h hs ht]
    exact .same h

/-- Another user's beneficiary and a former one look alike: as if they were not there. -/
theorem run_alike_shared :
    Alike 7 ((Operation.deactivate 2).run ⟨7, []⟩ .shared)
      ((Operation.deactivate 2).run ⟨7, []⟩ (Store.shared.restrict 7)) ∧
    ((Operation.deactivate 2).run ⟨7, []⟩ .shared).1 =
      .error (.refusal (.unknownBeneficiary (.int 2))) ∧
    Alike 7 ((Operation.update 3 [("name", .text "Ann")]).run ⟨7, []⟩ .shared)
      ((Operation.update 3 [("name", .text "Ann")]).run ⟨7, []⟩ (Store.shared.restrict 7)) ∧
    ((Operation.update 3 [("name", .text "Ann")]).run ⟨7, []⟩ .shared).1 =
      .error (.refusal (.unknownBeneficiary (.int 3))) := by
  have hs : Store.shared.WellFormed := ⟨by decide, by decide⟩
  exact ⟨run_alike ⟨7, []⟩ .shared _ hs (hs.restrict 7) (agreeFor_restrict _ 7) (.deactivate 2),
    by cbv,
    run_alike ⟨7, []⟩ .shared _ hs (hs.restrict 7) (agreeFor_restrict _ 7)
      (.update 3 [("name", .text "Ann")]),
    by cbv⟩

end Remit
