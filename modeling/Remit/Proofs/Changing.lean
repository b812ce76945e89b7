import Remit.Proofs.Columns
import Remit.Proofs.Store.History

/-!
# What changing a beneficiary comes to

A change that succeeds reports the difference between what was supplied and what was stored, field
by field (`Registry.Reports`), and leaves the row with every supplied field as it was read and every
other field as it was. Without a difference nothing is written: the change takes the same course
whatever writing does (`Registry.updateSaving_of_empty`). So a change that is repeated finds nothing
left to do (`Registry.update_reports_difference`).
-/

namespace Remit

/-- What two continuations make the same of a result, they make the same of its change. -/
theorem Update.bind_congr_of_ok {α β : Type} {u : Update α} {f g : α → Update β} {x : α}
    {s t : Store} (h : u.result s = (.ok x, t)) (hfg : f x t = g x t) :
    (u >>= f) s = (u >>= g) s := by
  rcases hu : u s with ⟨⟨es, o⟩, t'⟩
  rw [result, hu] at h
  cases h
  simp only [Bind.bind, andThen, hu, hfg]

namespace Registry

variable {s t : Store} {user : User} {id : Int} {fields changes : Fields}

/-- What a change reports: the supplied fields that differ from the row, with their new values. -/
structure Reports (u : Request.BeneficiaryUpdate) (r : BeneficiaryRow) (changes : Fields) :
    Prop where
  name : ∀ v, ("name", v) ∈ changes ↔ ∃ name, u.name = .given name ∧ name ≠ r.name ∧ v = .text name
  transferLimit : ∀ v, ("transferLimit", v) ∈ changes ↔
    ∃ limit, u.transferLimit = .given limit ∧ limit ≠ r.transferLimit ∧ v = .ofInt? limit
  only : ∀ f ∈ changes, f.1 = "name" ∨ f.1 = "transferLimit"
  once : (changes.map (·.1)).Nodup

/-- A field that is unlike the stored value is reported under its name. -/
theorem mem_named_unlike {α : Type} [DecidableEq α] {u : Supplied α} {old : α} {key : String}
    {toValue : α → Value} {f : String × Value} :
    f ∈ (u.unlike old).named key toValue ↔
      ∃ a, u = .given a ∧ a ≠ old ∧ f = (key, toValue a) := by
  cases u with
  | absent => exact ⟨nofun, fun ⟨_, h, _⟩ => nomatch h⟩
  | given a =>
    by_cases h : a = old
    · rw [h, Supplied.unlike_given_self]
      refine ⟨nofun, ?_⟩
      rintro ⟨_, heq, hne, -⟩
      exact absurd (Supplied.given.inj heq).symm hne
    · rw [Supplied.unlike_given_of_ne h]
      refine ⟨fun hf => ⟨a, rfl, h, List.mem_singleton.1 hf⟩, ?_⟩
      rintro ⟨_, heq, -, rfl⟩
      cases heq
      exact .head _

/-- A field is reported once. -/
theorem map_named {α : Type} (u : Supplied α) (key : String) (toValue : α → Value) :
    (u.named key toValue).map (·.1) = [] ∨ (u.named key toValue).map (·.1) = [key] := by
  cases u with
  | absent => exact .inl rfl
  | given a => exact .inr rfl

/-- The fields that are unlike a row are what a change of it reports. -/
theorem reports_unlike (u : Request.BeneficiaryUpdate) (r : BeneficiaryRow) :
    Reports u r (u.unlike r).fields := by
  have hmem : ∀ f, f ∈ (u.unlike r).fields ↔
      (∃ name, u.name = .given name ∧ name ≠ r.name ∧ f = ("name", .text name)) ∨
      ∃ limit, u.transferLimit = .given limit ∧ limit ≠ r.transferLimit ∧
        f = ("transferLimit", .ofInt? limit) := by
    intro f
    rw [Request.BeneficiaryUpdate.fields, List.mem_append, Request.BeneficiaryUpdate.unlike,
      mem_named_unlike, mem_named_unlike]
  refine ⟨fun v => ?_, fun v => ?_, fun f hf => ?_, ?_⟩
  · rw [hmem]
    simp
  · rw [hmem]
    simp
  · rcases (hmem f).1 hf with ⟨_, -, -, rfl⟩ | ⟨_, -, -, rfl⟩
    · exact .inl rfl
    · exact .inr rfl
  · rw [Request.BeneficiaryUpdate.fields, List.map_append]
    rcases map_named (u.unlike r).name "name" .text with hn | hn <;>
      rcases map_named (u.unlike r).transferLimit "transferLimit" .ofInt? with hl | hl <;>
        rw [hn, hl] <;> decide

/-! ## Writing -/

/-- A change as `Registry.update` makes it, with another way to write what differs. -/
def updateSaving (save : Int → Fields → Update Unit) (user : User) (id : Int) (fields : Fields) :
    Update Fields := do
  let requested ← Update.ofAct (.lift (Request.beneficiaryUpdate fields))
  let b ← ownedActive user id
  let changes ← Update.ofAct (.liftBreakdown (requestedChanges b requested))
  if changes.isEmpty then
    Act.log .app .info s!"No changes requested for beneficiary {id}"
  else
    save id changes
    Act.log .usage .info s!"User {user.id} updated beneficiary {id}: {changedNames changes}"
  return changes

/-- An update of the registry is the one that saves changes in the store. -/
theorem update_eq_updateSaving : update = updateSaving Store.saveChanges := rfl

/-- A change that reports no difference takes the same course whatever writing does. -/
theorem updateSaving_of_empty (h : (update user id fields).result s = (.ok [], t))
    (save : Int → Fields → Update Unit) :
    updateSaving save user id fields s = update user id fields s := by
  rw [result_update] at h
  rw [update_eq_updateSaving]
  unfold updateSaving
  cases hrequest : Request.beneficiaryUpdate fields with
  | error e =>
    rw [hrequest] at h
    cases h
  | ok requested =>
    simp only [hrequest] at h
    refine Update.bind_congr_of_ok (Update.result_ofAct _) ?_
    rcases howned : (ownedActive user id).result s with ⟨e | b, t'⟩
    · rw [howned] at h
      cases h
    refine Update.bind_congr_of_ok howned ?_
    simp only [howned] at h
    cases hchanges : requestedChanges b requested with
    | error e =>
      rw [hchanges] at h
      cases h
    | ok changes =>
      refine Update.bind_congr_of_ok (Update.result_ofAct _) ?_
      simp only [hchanges] at h
      split at h
      · next hempty =>
        rw [List.isEmpty_iff.1 hempty]
        rfl
      · next hne =>
        have hnil : changes = [] := by
          rcases hw : ((Store.saveChanges id changes).result t').1 with e | ⟨⟩ <;> rw [hw] at h <;>
            cases h
          rfl
        exact absurd (List.isEmpty_iff.2 hnil) hne

/-! ## Changing twice -/

/-- An update written into a row differs from it no more. -/
theorem unlike_onto_self (u : Request.BeneficiaryUpdate) (r : BeneficiaryRow) :
    (u.unlike (u.onto r)).fields = [] := by
  obtain ⟨_ | name, _ | limit⟩ := u <;>
    simp [Request.BeneficiaryUpdate.unlike, Request.BeneficiaryUpdate.onto,
      Request.BeneficiaryUpdate.fields, Supplied.onto, Supplied.unlike, Supplied.named]

/-- A change that succeeds reports the difference and writes what was supplied; without a difference
it writes nothing, and repeated it finds no difference. -/
theorem update_reports_difference (hs : s.UniqueIds)
    (h : (update user id fields).result s = (.ok changes, t)) :
    ∃ u r, Request.beneficiaryUpdate fields = .ok u ∧ Request.ReadsUpdate fields u ∧
      r ∈ s.beneficiaries ∧ r.id = id ∧ r.isActiveOf user.id = true ∧ Reports u r changes ∧
      (t = s.mapRow id fun _ => { r with
        name := match u.name with
          | .absent => r.name
          | .given name => name
        transferLimit := match u.transferLimit with
          | .absent => r.transferLimit
          | .given limit => limit }) ∧
      (changes = [] → t = s ∧
        ∀ save, updateSaving save user id fields s = update user id fields s) ∧
      (update user id fields).result t = (.ok [], t) := by
  rcases update_cases user id fields hs with ⟨e, he⟩ | ⟨u, hu, r, hr, rfl, ha, hk, hid, hok⟩
  · cases he.symm.trans h
  obtain ⟨hchanges, ht⟩ := Prod.mk.inj (hok.symm.trans h)
  obtain rfl := Except.ok.inj hchanges
  have hreads : Request.ReadsUpdate fields u :=
    (Request.beneficiaryUpdateForm_decides fields).reads hu
  have honto : u.onto r ∈ t.beneficiaries := by
    rw [← ht]
    exact Store.mem_mapRow.2 ⟨r, hr, if_pos rfl⟩
  have hids : t.UniqueIds := by
    rw [← ht]
    refine hs.mapRow fun r' hr' hid' => ?_
    rw [eq_of_id_eq hs hr' hr hid']
    rfl
  refine ⟨u, r, hu, hreads, hr, rfl, ha, reports_unlike u r, ?_, fun hnil => ⟨?_, ?_⟩, ?_⟩
  · rw [← ht]
    obtain ⟨_ | name, _ | limit⟩ := u <;> rfl
  · rw [← ht, Request.BeneficiaryUpdate.onto_of_isEmpty (List.isEmpty_iff.2 hnil),
      Store.mapRow_self hs hr]
  · rw [hnil] at h
    exact updateSaving_of_empty h
  · have howned := result_ownedActive_of_mem hids honto hk ha hid
    have hempty := unlike_onto_self u r
    rw [result_update, hu]
    change (ownedActive user r.id).result t = _ at howned
    simp only [howned, requestedChanges_eq (show (u.onto r).IsKnown from hk), hempty]
    rfl

/-- A name that is supplied as it is stored is not reported, and a limit that is supplied as a text
is reported as its number. -/
theorem update_reports_limit :
    (Store.mk [.lone "USD"] .lone).UniqueIds ∧
    (update ⟨7, []⟩ 1 [("name", .text "Ann"), ("transferLimit", .text "1e2")]).result
        ⟨[.lone "USD"], .lone⟩ =
      (.ok [("transferLimit", .int 100)],
        ⟨[{ BeneficiaryRow.lone "USD" with transferLimit := some 100 }], .lone⟩) ∧
    (update ⟨7, []⟩ 1 [("name", .text "Ann"), ("transferLimit", .text "1e2")]).result
        ⟨[{ BeneficiaryRow.lone "USD" with transferLimit := some 100 }], .lone⟩ =
      (.ok [], ⟨[{ BeneficiaryRow.lone "USD" with transferLimit := some 100 }], .lone⟩) := by
  have hread : Request.beneficiaryUpdate [("name", .text "Ann"), ("transferLimit", .text "1e2")] =
      .ok ⟨.given "Ann", .given (some 100)⟩ := by cbv
  have hids : (Store.mk [.lone "USD"] .lone).UniqueIds := by decide
  have hchanged : (update ⟨7, []⟩ 1
      [("name", .text "Ann"), ("transferLimit", .text "1e2")]).result ⟨[.lone "USD"], .lone⟩ =
      (.ok [("transferLimit", .int 100)],
        ⟨[{ BeneficiaryRow.lone "USD" with transferLimit := some 100 }], .lone⟩) := by
    rw [result_update_lone hread (by decide)]
    cbv
  obtain ⟨_, _, -, -, -, -, -, -, -, -, hrepeated⟩ := update_reports_difference hids hchanged
  exact ⟨hids, hchanged, hrepeated⟩

end Registry

end Remit
