import Remit.Proofs.Store.Write

/-!
# Stores that agree for a user

Two stores agree for a user (`Store.AgreeFor`) if they hold the same tables of the bank and the same
active rows of that user; rows of others and inactive rows may differ. Then the questions of the
user have the same answers in both (`AgreeFor.listActive_eq`, `AgreeFor.transferLimit_eq`), and the
writes that concern rows of the user do the same in both: an addition gives the same row but for its
id (`AgreeFor.insert`), a change or a deactivation leaves stores that agree again
(`AgreeFor.saveChanges`, `AgreeFor.deactivate`).
-/

namespace Remit.Store

/-- The same bank, and the same active rows of a user. -/
structure AgreeFor (user : Int) (s t : Store) : Prop where
  bank : s.bank = t.bank
  rows : ∀ r, r.isActiveOf user = true → (r ∈ s.beneficiaries ↔ r ∈ t.beneficiaries)

namespace AgreeFor

variable {user : Int} {s t : Store} {r : BeneficiaryRow}

theorem symm (h : AgreeFor user s t) : AgreeFor user t s :=
  ⟨h.bank.symm, fun r ha => (h.rows r ha).symm⟩

/-! ## Questions -/

/-- The active rows of the user are the same in both stores, in the same order. -/
theorem activeRows_eq (h : AgreeFor user s t) (hs : s.UniqueIds) (ht : t.UniqueIds) :
    s.activeRows user = t.activeRows user := by
  have hmem : ∀ r, r ∈ s.activeRows user ↔ r ∈ t.activeRows user := by
    intro r
    rw [mem_activeRows, mem_activeRows]
    exact and_congr_left fun ha => h.rows r ha
  have hnodup : ∀ u : Store, u.UniqueIds → (u.activeRows user).Nodup := fun u hu =>
    (List.mergeSort_perm _ _).nodup_iff.2 ((hu.filter _).of_map _)
  refine List.Perm.eq_of_pairwise (fun a b ha hb hab hba => ?_) pairwise_byId pairwise_byId
    ((List.perm_ext_iff_of_nodup (hnodup s hs) (hnodup t ht)).2 hmem)
  have hb' := (mem_activeRows.1 ((hmem b).2 hb)).1
  exact eq_of_id_eq hs (mem_activeRows.1 ha).1 hb' (Int.le_antisymm hab hba)

/-- Stores that agree on a user list the same beneficiaries. -/
theorem listActive_eq (h : AgreeFor user s t) (hs : s.WellFormed) (ht : t.WellFormed) :
    s.listActive user = t.listActive user := by
  cases hu : fitsColumn user with
  | false => rw [listActive, listActive, column_of_not_fits hu]; rfl
  | true => rw [Store.listActive_eq hs hu, Store.listActive_eq ht hu, h.activeRows_eq hs.ids ht.ids]

/-- A limit of one store is a limit of the other. -/
theorem isLimit_iff (h : AgreeFor user s t) {account : Option Int} {type limit : Int} :
    s.IsLimit user account type limit ↔ t.IsLimit user account type limit := by
  have imp : ∀ {s t : Store}, AgreeFor user s t →
      s.IsLimit user account type limit → t.IsLimit user account type limit := by
    rintro s t h ⟨r, hr, ha, hlimit⟩
    exact ⟨r, (h.rows r ha).1 hr, ha, hlimit⟩
  exact ⟨imp h, imp h.symm⟩

/-- The strictest limit on an account is the same in both stores. -/
theorem min?_limitsOn_eq (h : AgreeFor user s t) (account : Option Int) (type : Int) :
    (s.limitsOn user account type).min? = (t.limitsOn user account type).min? := by
  cases account with
  | none => simp [limitsOn]
  | some account =>
    refine Option.ext fun limit => ?_
    rw [min?_limitsOn_eq_some_iff rfl, min?_limitsOn_eq_some_iff rfl]
    simp only [h.isLimit_iff]

/-- What a user may transfer to an account is the same in both stores. -/
theorem transferLimit_eq (h : AgreeFor user s t) (account : Option Int) (type : Int) :
    s.transferLimit user account type = t.transferLimit user account type := by
  rw [transferLimit, transferLimit]
  cases hu : fitsColumn user with
  | false => rw [column_of_not_fits hu]; rfl
  | true =>
    rw [column_of_fits hu]
    show (do
      let _ ← account.mapM column
      let type ← column type
      return (s.limitsOn user account type).min?) = _
    simp only [h.min?_limitsOn_eq]
    rfl

/-! ## Writes -/

/-- A row of the user with an id of its own may be in one store if it may be in the other. -/
theorem checkName_eq (h : AgreeFor user s t) (hr : r.userId = user) :
    s.checkName r = t.checkName r := by
  have hadmits : s.Admits r ↔ t.Admits r := by
    subst hr
    exact ⟨fun ha a hm hof => ha a ((h.rows a hof).2 hm) hof,
      fun ha a hm hof => ha a ((h.rows a hof).1 hm) hof⟩
  by_cases ha : s.Admits r
  · rw [checkName_eq_ok.2 ⟨ha, rfl⟩, checkName_eq_ok.2 ⟨hadmits.1 ha, rfl⟩]
  · rw [checkName_of_not_admits ha, checkName_of_not_admits (hadmits.not.1 ha)]

/-- An addition for the user fails in both stores for one reason, or it adds a row to both that
differs only in its id. -/
theorem insert (h : AgreeFor user s t) {d : Draft} (hd : d.userId = .int user) :
    (∃ e, (Store.insert d).result s = (.error e, s) ∧
      (Store.insert d).result t = (.error e, t)) ∨
    ∃ (r : BeneficiaryRow) (i j : Int),
      (Store.insert d).result s = (.ok i, s.withRow { r with id := i }) ∧
      (Store.insert d).result t = (.ok j, t.withRow { r with id := j }) := by
  have hmap := rowOf_eq_map s t d
  rcases hrow : t.rowOf d with b | v | r
  · rw [hrow] at hmap
    rw [result_insert, result_insert, hrow, hmap]
    exact .inl ⟨_, rfl, rfl⟩
  · rw [hrow] at hmap
    obtain ⟨e, he⟩ := exists_outcome_refuseViolation Int v d.name
    rw [result_insert, result_insert, hrow, hmap]
    exact .inl ⟨_, congrArg (·, s) he, congrArg (·, t) he⟩
  · rw [hrow] at hmap
    obtain ⟨-, -, hu⟩ := rowOf_eq_ok hrow
    obtain rfl : r.userId = user := Cell.int_int (hd ▸ hu)
    obtain ⟨hrefused, hadded⟩ := insert_of_row hmap
    obtain ⟨hrefused', hadded'⟩ := insert_of_row hrow
    by_cases hn : ∃ r' ∈ t.beneficiaries, r'.isActiveOf r.userId = true ∧ r'.name = r.name
    · obtain ⟨r', hm, ha, hn⟩ := hn
      exact .inl ⟨_, hrefused ⟨r', (h.rows r' ha).2 hm, ha, hn⟩, hrefused' ⟨r', hm, ha, hn⟩⟩
    · have hfree : ∀ r' ∈ t.beneficiaries, r'.isActiveOf r.userId = true → r'.name ≠ r.name :=
        fun r' hm ha heq => hn ⟨r', hm, ha, heq⟩
      exact .inr ⟨r, _, r.id, hadded fun r' hm ha => hfree r' ((h.rows r' ha).1 hm) ha,
        hadded' hfree⟩

/-! ## Changes of a row of the user -/

variable {f : BeneficiaryRow → BeneficiaryRow}

/-- Changing the row of an id changes one row. -/
theorem mem_mapRow_of_mem (hs : s.UniqueIds) (hr : r ∈ s.beneficiaries) {a : BeneficiaryRow} :
    a ∈ (s.mapRow r.id f).beneficiaries ↔ a = f r ∨ a ∈ s.beneficiaries ∧ a.id ≠ r.id := by
  rw [mem_mapRow]
  constructor
  · rintro ⟨a, ha, rfl⟩
    split
    · next hid => exact .inl (by rw [eq_of_id_eq hs ha hr hid])
    · next hid => exact .inr ⟨ha, hid⟩
  · rintro (rfl | ⟨ha, hid⟩)
    · exact ⟨r, hr, if_pos rfl⟩
    · exact ⟨a, ha, if_neg hid⟩

/-- After a change of a row of the user, the stores agree again. -/
theorem mapRow (h : AgreeFor user s t) (hs : s.UniqueIds) (ht : t.UniqueIds)
    (hr : r ∈ s.beneficiaries) (ha : r.isActiveOf user = true) :
    AgreeFor user (s.mapRow r.id f) (t.mapRow r.id f) := by
  refine ⟨h.bank, fun a hof => ?_⟩
  rw [mem_mapRow_of_mem hs hr, mem_mapRow_of_mem ht ((h.rows r ha).1 hr), h.rows a hof]

/-- A change of a row of the user has one outcome in both stores. -/
theorem saveChanges (h : AgreeFor user s t) (hs : s.UniqueIds) (ht : t.UniqueIds)
    (hr : r ∈ s.beneficiaries) (ha : r.isActiveOf user = true) (changes : Fields) :
    ∃ o s' t', (Store.saveChanges r.id changes).result s = (o, s') ∧
      (Store.saveChanges r.id changes).result t = (o, t') ∧ AgreeFor user s' t' := by
  have hfind : ∀ u : Store, u.UniqueIds → r ∈ u.beneficiaries →
      u.beneficiaries.find? (·.id == r.id) = some r := fun u hu hm =>
    find?_eq_of_id hu hm (by simp) fun _ _ h => by simpa using h
  rw [result_saveChanges, result_saveChanges, hfind s hs hr, hfind t ht ((h.rows r ha).1 hr)]
  rcases Cells.ofFields changes with b | cells
  · exact ⟨_, _, _, rfl, rfl, h⟩
  simp only
  split
  · exact ⟨_, _, _, rfl, rfl, h⟩
  split
  · exact ⟨_, _, _, rfl, rfl, h⟩
  have hwrite : cells.write s r = cells.write t r := by
    rw [Cells.write_eq, Cells.write_eq]
    congr 1
    funext name
    split
    · exact h.checkName_eq (BeneficiaryRow.isActiveOf_iff.1 ha).2
    · rfl
  rw [hwrite]
  cases cells.write t r with
  | error v => exact ⟨_, _, _, rfl, rfl, h⟩
  | ok r' => exact ⟨_, _, _, rfl, rfl, h.mapRow hs ht hr ha⟩

/-- A deactivation of a row of the user has one outcome in both stores. -/
theorem deactivate (h : AgreeFor user s t) (hs : s.UniqueIds) (ht : t.UniqueIds)
    (hr : r ∈ s.beneficiaries) (ha : r.isActiveOf user = true) :
    ∃ o s' t', (Store.deactivate r.id).result s = (o, s') ∧
      (Store.deactivate r.id).result t = (o, t') ∧ AgreeFor user s' t' := by
  cases hid : fitsColumn r.id with
  | false =>
    exact ⟨_, _, _, result_deactivate_of_not_fits hid, result_deactivate_of_not_fits hid, h⟩
  | true =>
    exact ⟨_, _, _, result_deactivate hid, result_deactivate hid, h.mapRow hs ht hr ha⟩

end AgreeFor

end Remit.Store
