import Mathlib.Data.List.Induction
import Remit.Proofs.Store.Write

/-!
# The table of beneficiaries over time

A run of the service is a list of writes, whoever asked for them (`Write`, `Store.after`). A store
is `Consistent` if its ids are keys and no two active rows of a user have one name. Every write
keeps it so (`Consistent.apply`), and every row stays what it was but for its name, its limit and
its activity, which never comes back (`BeneficiaryRow.Becomes`, `exists_becomes_apply`).
`after_spec` puts together what holds at every point of every run.
-/

namespace Remit

/-- One write of the table of beneficiaries, with any arguments. -/
inductive Write where
  | insert (d : Draft)
  | saveChanges (id : Int) (changes : Fields)
  | deactivate (id : Int)

/-- The store that a write leaves, also when it fails. -/
def Write.apply (s : Store) : Write → Store
  | insert d => ((Store.insert d).result s).2
  | saveChanges id changes => ((Store.saveChanges id changes).result s).2
  | deactivate id => ((Store.deactivate id).result s).2

/-- What may become of a row: it keeps all cells but its name, its limit and its activity, and an
inactive row stays inactive. -/
structure BeneficiaryRow.Becomes (r r' : BeneficiaryRow) : Prop where
  fixed : r' = { r with
    name := r'.name, transferLimit := r'.transferLimit, isActive := r'.isActive }
  ended : r.isActive = false → r'.isActive = false

namespace BeneficiaryRow.Becomes

variable {r r' r'' : BeneficiaryRow}

theorem refl (r : BeneficiaryRow) : r.Becomes r := ⟨rfl, fun ha => ha⟩

theorem trans (h : r.Becomes r') (h' : r'.Becomes r'') : r.Becomes r'' := by
  refine ⟨?_, fun ha => h'.ended (h.ended ha)⟩
  rw [h'.fixed, h.fixed]

/-- A row keeps its id … -/
theorem id_eq (h : r.Becomes r') : r'.id = r.id := by rw [h.fixed]

/-- … and its user. -/
theorem userId_eq (h : r.Becomes r') : r'.userId = r.userId := by rw [h.fixed]

end BeneficiaryRow.Becomes

namespace Store

/-- The store after a run of writes. -/
def after (s : Store) (ws : List Write) : Store := ws.foldl Write.apply s

/-- Each row has an id of its own, and no two active rows of a user have one name. -/
structure Consistent (s : Store) : Prop where
  ids : s.UniqueIds
  names : ∀ r ∈ s.beneficiaries, r.isActive = true → s.Admits r

/-- Where the values of a write fit, it is refused exactly for the name of another active row of the
user. -/
structure RefusesDuplicates (s : Store) : Prop where
  insert : ∀ d user name, d.Fits user name →
    (∃ r ∈ s.beneficiaries, r.isActiveOf user = true ∧ r.name = name) ∧
      (Store.insert d).result s = (.error (.refusal (.duplicateName d.name)), s) ∨
    (∀ r ∈ s.beneficiaries, r.isActiveOf user = true → r.name ≠ name) ∧
      ∃ r, r.userId = user ∧ r.name = name ∧ (Store.insert d).result s = (.ok r.id, s.withRow r)
  saveChanges : ∀ r ∈ s.beneficiaries, r.isActive = true → fitsColumn r.id = true →
    ∀ changes name limit, Cells.ofFields changes = .ok ⟨some (some name), limit⟩ →
    (∃ r' ∈ s.beneficiaries, r'.id ≠ r.id ∧ r'.isActiveOf r.userId = true ∧ r'.name = name) ∧
      (Store.saveChanges r.id changes).result s =
        (.error (.refusal (.duplicateName (changes.get "name"))), s) ∨
    (∀ r' ∈ s.beneficiaries, r'.id ≠ r.id → r'.isActiveOf r.userId = true → r'.name ≠ name) ∧
      (Store.saveChanges r.id changes).result s = (.ok (), s.mapRow r.id fun _ =>
        { r with name := name, transferLimit := limit.getD r.transferLimit })

variable {s : Store} {r : BeneficiaryRow}

/-! ## One write -/

/-- A write leaves the store as it is, adds an active row that the store admits, or changes the row
of an id so that, if it is active, the store admits it. -/
theorem apply_cases (hs : s.UniqueIds) (w : Write) :
    w.apply s = s ∨
    (∃ r, r.id = s.nextId ∧ s.Admits r ∧ w.apply s = s.withRow r) ∨
    ∃ id f, (∀ r ∈ s.beneficiaries, r.id = id →
        r.Becomes (f r) ∧ ((f r).isActive = true → s.Admits (f r))) ∧
      w.apply s = s.mapRow id f := by
  cases w with
  | insert d =>
    rcases insert_cases s d with ⟨e, h⟩ | ⟨r, hid, -, hadmits, h⟩
    · exact .inl (by rw [Write.apply, h])
    · exact .inr (.inl ⟨r, hid, hadmits, by rw [Write.apply, h]⟩)
  | saveChanges id changes =>
    rcases saveChanges_cases s id changes with ⟨o, h⟩ | ⟨r, hr, hid, name, limit, hadmits, h⟩
    · exact .inl (by rw [Write.apply, h])
    · refine .inr (.inr ⟨id, _, fun r' hr' hid' => ?_, by rw [Write.apply, h]⟩)
      obtain rfl := eq_of_id_eq hs hr' hr (hid'.trans hid.symm)
      exact ⟨⟨rfl, fun ha => ha⟩, hadmits⟩
  | deactivate id =>
    cases hid : fitsColumn id with
    | false => exact .inl (by rw [Write.apply, result_deactivate_of_not_fits hid])
    | true =>
      refine .inr (.inr ⟨id, _, fun r _ _ => ?_, by rw [Write.apply, result_deactivate hid]⟩)
      exact ⟨⟨rfl, fun _ => rfl⟩, nofun⟩

/-- The next id is no id of a row. -/
theorem UniqueIds.withRow (h : s.UniqueIds) (hid : r.id = s.nextId) : (s.withRow r).UniqueIds := by
  show ((s.beneficiaries ++ [r]).map (·.id)).Nodup
  rw [List.map_append, List.nodup_append]
  refine ⟨h, List.nodup_singleton _, fun i hi j hj => ?_⟩
  obtain ⟨r', hr', rfl⟩ := List.mem_map.1 hi
  obtain rfl := List.mem_singleton.1 hj
  show r'.id ≠ r.id
  rw [hid]
  exact Int.ne_of_lt (lt_nextId hr')

/-- Changing a row leaves its id, and so all ids. -/
theorem UniqueIds.mapRow (h : s.UniqueIds) {id : Int} {f : BeneficiaryRow → BeneficiaryRow}
    (hf : ∀ r ∈ s.beneficiaries, r.id = id → (f r).id = r.id) : (s.mapRow id f).UniqueIds := by
  have hids : ∀ r ∈ s.beneficiaries, (if r.id = id then f r else r).id = r.id := by
    intro r hr
    split
    · next hid => exact hf r hr hid
    · rfl
  have hmap : (s.mapRow id f).beneficiaries.map (·.id) = s.beneficiaries.map (·.id) := by
    rw [Store.mapRow, List.map_map]
    exact List.map_congr_left hids
  rw [UniqueIds, hmap]
  exact h

/-- A write keeps ids unique. -/
theorem UniqueIds.apply (h : s.UniqueIds) (w : Write) : (w.apply s).UniqueIds := by
  rcases apply_cases h w with hw | ⟨r, hid, -, hw⟩ | ⟨id, f, hf, hw⟩ <;> rw [hw]
  · exact h
  · exact h.withRow hid
  · exact h.mapRow fun r hr hid => (hf r hr hid).1.id_eq

/-- Adding an admitted row with the next id keeps a store consistent. -/
theorem Consistent.withRow (h : s.Consistent) (hid : r.id = s.nextId) (hr : s.Admits r) :
    (s.withRow r).Consistent := by
  refine ⟨h.ids.withRow hid, fun a ha hactive b hb hof hname => ?_⟩
  rw [BeneficiaryRow.isActiveOf_iff] at hof
  rcases mem_withRow.1 ha with hma | rfl <;> rcases mem_withRow.1 hb with hmb | rfl
  · exact h.names a hma hactive b hmb (BeneficiaryRow.isActiveOf_iff.2 hof) hname
  · exact (hr a hma (BeneficiaryRow.isActiveOf_iff.2 ⟨hactive, hof.2.symm⟩) hname.symm).symm
  · exact hr b hmb (BeneficiaryRow.isActiveOf_iff.2 hof) hname
  · rfl

/-- Changing a row so that the store admits it keeps a store consistent. -/
theorem Consistent.mapRow (h : s.Consistent) {id : Int} {f : BeneficiaryRow → BeneficiaryRow}
    (hf : ∀ r ∈ s.beneficiaries, r.id = id →
      r.Becomes (f r) ∧ ((f r).isActive = true → s.Admits (f r))) :
    (s.mapRow id f).Consistent := by
  have hids : ∀ r ∈ s.beneficiaries, (if r.id = id then f r else r).id = r.id := by
    intro r hr
    split
    · next hid => exact (hf r hr hid).1.id_eq
    · rfl
  refine ⟨h.ids.mapRow fun r hr hid => (hf r hr hid).1.id_eq,
    fun a ha hactive b hb hof hname => ?_⟩
  obtain ⟨r, hr, rfl⟩ := mem_mapRow.1 ha
  obtain ⟨r', hr', rfl⟩ := mem_mapRow.1 hb
  rw [hids r hr, hids r' hr']
  rw [BeneficiaryRow.isActiveOf_iff] at hof
  by_cases hid : r.id = id <;> by_cases hid' : r'.id = id
  · exact hid'.trans hid.symm
  · rw [if_pos hid] at hactive hof hname
    rw [if_neg hid'] at hof hname
    obtain ⟨hbecomes, hadmits⟩ := hf r hr hid
    rw [hadmits hactive r' hr' (BeneficiaryRow.isActiveOf_iff.2 hof) hname, hbecomes.id_eq]
  · rw [if_neg hid] at hactive hof hname
    rw [if_pos hid'] at hof hname
    obtain ⟨hbecomes, hadmits⟩ := hf r' hr' hid'
    rw [hadmits hof.1 r hr (BeneficiaryRow.isActiveOf_iff.2 ⟨hactive, hof.2.symm⟩) hname.symm,
      hbecomes.id_eq]
  · rw [if_neg hid] at hactive hof hname
    rw [if_neg hid'] at hof hname
    exact h.names r hr hactive r' hr' (BeneficiaryRow.isActiveOf_iff.2 hof) hname

/-- A write keeps a store consistent. -/
theorem Consistent.apply (h : s.Consistent) (w : Write) : (w.apply s).Consistent := by
  rcases apply_cases h.ids w with hw | ⟨r, hid, hr, hw⟩ | ⟨id, f, hf, hw⟩
  · rwa [hw]
  · rw [hw]
    exact h.withRow hid hr
  · rw [hw]
    exact h.mapRow hf

/-- No row disappears in a write. -/
theorem exists_becomes_apply (hs : s.UniqueIds) (w : Write) (hr : r ∈ s.beneficiaries) :
    ∃ r' ∈ (w.apply s).beneficiaries, r.Becomes r' := by
  rcases apply_cases hs w with hw | ⟨r', -, -, hw⟩ | ⟨id, f, hf, hw⟩
  · exact ⟨r, by rwa [hw], .refl r⟩
  · exact ⟨r, by rw [hw]; exact mem_withRow.2 (.inl hr), .refl r⟩
  · refine ⟨if r.id = id then f r else r, by rw [hw]; exact mem_mapRow.2 ⟨r, hr, rfl⟩, ?_⟩
    split
    · next hid => exact (hf r hr hid).1
    · exact .refl r

/-- A store whose ids are keys refuses duplicate names and nothing else. -/
theorem UniqueIds.refusesDuplicates (hs : s.UniqueIds) : s.RefusesDuplicates where
  insert d user name hd := by
    obtain ⟨hrefused, hadded⟩ := insert_of_fits (s := s) hd
    by_cases h : ∃ r ∈ s.beneficiaries, r.isActiveOf user = true ∧ r.name = name
    · exact .inl ⟨h, hrefused h⟩
    · have hfree : ∀ r ∈ s.beneficiaries, r.isActiveOf user = true → r.name ≠ name :=
        fun r hr ha hn => h ⟨r, hr, ha, hn⟩
      exact .inr ⟨hfree, hadded hfree⟩
  saveChanges r hr ha hid changes name limit hcells := by
    obtain ⟨hrefused, hwritten⟩ := saveChanges_of_fits hs hr ha hid hcells
    by_cases h : ∃ r' ∈ s.beneficiaries,
        r'.id ≠ r.id ∧ r'.isActiveOf r.userId = true ∧ r'.name = name
    · exact .inl ⟨h, hrefused h⟩
    · have hfree : ∀ r' ∈ s.beneficiaries,
          r'.id ≠ r.id → r'.isActiveOf r.userId = true → r'.name ≠ name :=
        fun r' hr' hne ha' hn => h ⟨r', hr', hne, ha', hn⟩
      exact .inr ⟨hfree, hwritten hfree⟩

/-! ## Runs -/

/-- Writes one after the other. -/
theorem after_append (ws ws' : List Write) : s.after (ws ++ ws') = (s.after ws).after ws' :=
  List.foldl_append

/-- The last write is made in the store that those before it leave. -/
theorem after_concat (ws : List Write) (w : Write) : s.after (ws ++ [w]) = w.apply (s.after ws) :=
  List.foldl_concat _ _ _ _

/-- A run keeps a store consistent. -/
theorem Consistent.after (h : s.Consistent) (ws : List Write) : (s.after ws).Consistent := by
  induction ws using List.reverseRecOn with
  | nil => exact h
  | append_singleton ws w ih =>
    rw [after_concat]
    exact ih.apply w

/-- No row disappears in a run. -/
theorem exists_becomes_after (h : s.Consistent) (ws : List Write) (hr : r ∈ s.beneficiaries) :
    ∃ r' ∈ (s.after ws).beneficiaries, r.Becomes r' := by
  induction ws using List.reverseRecOn with
  | nil => exact ⟨r, hr, .refl r⟩
  | append_singleton ws w ih =>
    obtain ⟨r', hr', hbecomes⟩ := ih
    obtain ⟨r'', hr'', hbecomes'⟩ := exists_becomes_apply (h.after ws).ids w hr'
    rw [after_concat]
    exact ⟨r'', hr'', hbecomes.trans hbecomes'⟩

/-- A row that is added later has a larger id than any row that was ever there. -/
theorem lt_of_insert_after (h : s.Consistent) (ws : List Write) (hr : r ∈ s.beneficiaries)
    {d : Draft} {id : Int} {t : Store}
    (hi : (insert d).result (s.after ws) = (.ok id, t)) : r.id < id := by
  obtain ⟨r', hr', hbecomes⟩ := exists_becomes_after h ws hr
  rcases insert_cases (s.after ws) d with ⟨e, he⟩ | ⟨a, hid, -, -, ha⟩
  · rw [he] at hi
    cases hi
  · rw [ha] at hi
    cases hi
    rw [hid, ← hbecomes.id_eq]
    exact lt_nextId hr'

end Store

open Store in
/-- What holds at every point of every run. The store is consistent; the rows of any earlier point
are still there, changed at most in name, limit and activity; a new row has a larger id than any row
before it; and duplicate names are refused, but nothing else whose values fit. -/
theorem Store.after_spec (s : Store) (hs : s.Consistent) (past next : List Write) :
    (s.after (past ++ next)).Consistent ∧
    (∀ r ∈ (s.after past).beneficiaries,
      ∃ r' ∈ (s.after (past ++ next)).beneficiaries, r.Becomes r') ∧
    (∀ d id t, (insert d).result (s.after (past ++ next)) = (.ok id, t) →
      (∀ r ∈ (s.after past).beneficiaries, r.id < id) ∧ ∃ r ∈ t.beneficiaries, r.id = id) ∧
    (s.after (past ++ next)).RefusesDuplicates := by
  have hpast := hs.after past
  have hnext := hpast.after next
  rw [after_append]
  refine ⟨hnext, fun r hr => exists_becomes_after hpast next hr,
    fun d id t hi => ⟨fun r hr => lt_of_insert_after hpast next hr hi, ?_⟩,
    hnext.ids.refusesDuplicates⟩
  rcases insert_cases ((s.after past).after next) d with ⟨e, he⟩ | ⟨a, -, -, -, ha⟩
  · rw [he] at hi
    cases hi
  · rw [ha] at hi
    cases hi
    exact ⟨a, mem_withRow.2 (.inr rfl), rfl⟩

/-- A draft of a beneficiary named Ann. -/
def Draft.sample : Draft where
  userId := .int 7
  name := .text "Ann"
  accountName := .text "Ann"
  accountNumber := .text "B1"
  accountType := 2
  institutionName := .text "Far"

/-- The draft of the example fits its columns. -/
theorem Draft.fits_sample : Draft.sample.Fits 7 "Ann" where
  userId := rfl
  name := rfl
  accountName := ⟨_, rfl⟩
  institutionName := ⟨_, rfl⟩
  accountNumber := ⟨_, rfl⟩
  institutionCode := ⟨_, rfl⟩
  currencyCode := ⟨_, rfl⟩
  accountId := ⟨_, rfl⟩
  clientId := ⟨_, rfl⟩
  officeId := ⟨_, rfl⟩
  accountType := rfl
  transferLimit := ⟨_, rfl⟩

/-- A name is free again once its row is inactive, under a new id, and then it is taken. -/
theorem Store.after_reuse :
    ({} : Store).Consistent ∧
    (({} : Store).after [.insert .sample, .deactivate 1, .insert .sample]).beneficiaries.map
      (fun r => (r.id, r.name, r.isActive)) = [(1, "Ann", false), (2, "Ann", true)] ∧
    ((insert .sample).result
      (({} : Store).after [.insert .sample, .deactivate 1, .insert .sample])).1 =
        .error (.refusal (.duplicateName (.text "Ann"))) := by
  have hempty : ({} : Store).Consistent :=
    ⟨List.nodup_nil, fun r hr => (List.not_mem_nil hr).elim⟩
  have hrows : (({} : Store).after
      [.insert .sample, .deactivate 1, .insert .sample]).beneficiaries.map
        (fun r => (r.id, r.name, r.isActive)) = [(1, "Ann", false), (2, "Ann", true)] := by
    decide +kernel
  have htaken : ¬ ∀ r ∈ (({} : Store).after
      [.insert .sample, .deactivate 1, .insert .sample]).beneficiaries,
        r.isActiveOf 7 = true → r.name ≠ "Ann" := by
    decide +kernel
  obtain ⟨-, -, -, hrefuses⟩ :=
    Store.after_spec {} hempty [.insert .sample, .deactivate 1] [.insert .sample]
  refine ⟨hempty, hrows, ?_⟩
  rcases hrefuses.insert .sample 7 "Ann" Draft.fits_sample with ⟨-, h⟩ | ⟨h, -⟩
  · exact congrArg Prod.fst h
  · exact (htaken h).elim

end Remit
