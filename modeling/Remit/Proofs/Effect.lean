import Mathlib
import Remit.Proofs.Operation

/-!
# What an operation does to the store

A successful operation has exactly one `Effect`: a new active row of the user at the end of the
table, another name or limit in an active row of the user, such a row made inactive, or nothing at
all. An operation that fails changes nothing, wherever it fails (`run_effect`).

The writes of the store go by ids alone; that they only reach rows of the user comes from the
look-up before them (`Registry.ownedActive_cases`), and that they are all or nothing from their
being single writes.
-/

namespace Remit

/-- Whether an operation is a question. -/
def Operation.isQuestion : Operation → Bool
  | add _ | update _ _ | deactivate _ => false
  | _ => true

/-- What a successful operation of a user does to a store, by its answer. -/
inductive Effect (user : User) (s : Store) : Operation → Answer → Store → Prop
  | added {fields} {r : BeneficiaryRow} (hid : r.id = s.nextId)
      (ha : r.isActiveOf user.id = true) :
      Effect user s (.add fields) (.added r.id) (s.withRow r)
  | updated {fields} {r : BeneficiaryRow} {changes name limit} (hr : r ∈ s.beneficiaries)
      (ha : r.isActiveOf user.id = true) :
      Effect user s (.update r.id fields) (.updated changes)
        (s.mapRow r.id fun _ => { r with name := name, transferLimit := limit })
  | deactivated {r : BeneficiaryRow} (hr : r ∈ s.beneficiaries)
      (ha : r.isActiveOf user.id = true) :
      Effect user s (.deactivate r.id) (.deactivated r.id)
        (s.mapRow r.id fun _ => { r with isActive := false })
  | answered {op answer} (hq : op.isQuestion = true) : Effect user s op answer s

variable {user : User} {s : Store}

/-! ## The operations -/

/-- Adding appends a row, or fails. -/
theorem add_effect (user : User) (fields : Fields) (s : Store) :
    (∃ e, (Operation.add fields).run user s = (.error e, s)) ∨
    ∃ answer t, (Operation.add fields).run user s = (.ok answer, t) ∧
      Effect user s (.add fields) answer t := by
  simp only [Operation.run]
  rcases Registry.add_cases user fields s with
    ⟨e, h⟩ | ⟨requested, resolved, r, hrequested, hresolved, hrow, -, h⟩ <;> rw [h]
  · exact .inl ⟨e, rfl⟩
  · obtain ⟨hid, -⟩ := Store.rowOf_eq_ok hrow
    exact .inr ⟨_, _, rfl,
      .added hid (Registry.isActiveOf_of_rowOf hrequested hresolved hrow)⟩

/-- An update writes the name and the limit of a row, or fails. -/
theorem update_effect (user : User) (hs : s.UniqueIds) (id : Int) (fields : Fields) :
    (∃ e, (Operation.update id fields).run user s = (.error e, s)) ∨
    ∃ answer t, (Operation.update id fields).run user s = (.ok answer, t) ∧
      Effect user s (.update id fields) answer t := by
  simp only [Operation.run]
  rcases Registry.update_cases user id fields hs with
    ⟨e, h⟩ | ⟨requested, -, r, hr, rfl, ha, -, -, h⟩ <;> rw [h]
  · exact .inl ⟨e, rfl⟩
  · exact .inr ⟨_, _, rfl, .updated hr ha⟩

/-- A deactivation makes a row inactive, or fails. -/
theorem deactivate_effect (user : User) (hs : s.UniqueIds) (id : Int) :
    (∃ e, (Operation.deactivate id).run user s = (.error e, s)) ∨
    ∃ answer t, (Operation.deactivate id).run user s = (.ok answer, t) ∧
      Effect user s (.deactivate id) answer t := by
  simp only [Operation.run]
  rcases Registry.deactivate_cases user id s with ⟨e, h⟩ | ⟨r, hr, rfl, ha, h⟩ <;> rw [h]
  · exact .inl ⟨e, rfl⟩
  · rw [Store.mapRow_of_mem hs hr]
    exact .inr ⟨_, _, rfl, .deactivated hr ha⟩

/-- A question leaves the store as it is, whatever the answer. -/
theorem question_effect (user : User) (s : Store) {op : Operation} (hq : op.isQuestion = true) :
    (∃ e, op.run user s = (.error e, s)) ∨
    ∃ answer t, op.run user s = (.ok answer, t) ∧ Effect user s op answer t := by
  have hstore : (op.run user s).2 = s := by
    cases op with
    | add | update | deactivate => cases hq
    | listActive | retrieveAll | transferLimit | beneficiaryTemplate | template | authorize => rfl
  rcases h : op.run user s with ⟨e | answer, t⟩ <;> obtain rfl : t = s := by rw [← hstore, h]
  · exact .inl ⟨e, rfl⟩
  · exact .inr ⟨answer, t, rfl, .answered hq⟩

/-- An operation has its effect if it succeeds, and none if it fails. -/
theorem run_effect (user : User) (s : Store) (hs : s.UniqueIds) (op : Operation) :
    (∀ e t, op.run user s = (.error e, t) → t = s) ∧
    ∀ answer t, op.run user s = (.ok answer, t) → Effect user s op answer t := by
  have hcases : (∃ e, op.run user s = (.error e, s)) ∨
      ∃ answer t, op.run user s = (.ok answer, t) ∧ Effect user s op answer t := by
    cases hq : op.isQuestion with
    | true => exact question_effect user s hq
    | false =>
      cases op with
      | add fields => exact add_effect user fields s
      | update id fields => exact update_effect user hs id fields
      | deactivate id => exact deactivate_effect user hs id
      | listActive | retrieveAll | transferLimit | beneficiaryTemplate | template | authorize =>
        cases hq
  rcases hcases with ⟨e, h⟩ | ⟨answer, t, h, heffect⟩ <;> rw [h]
  · refine ⟨fun e' t heq => ?_, fun answer t heq => ?_⟩ <;> cases heq
    rfl
  · refine ⟨fun e t' heq => ?_, fun answer' t' heq => ?_⟩ <;> cases heq
    exact heffect

/-- A deactivation of an own row has its effect, and one of another user's row has none. -/
theorem shared_effect :
    Store.shared.UniqueIds ∧
    (∃ t, (Operation.deactivate 1).run ⟨7, []⟩ .shared = (.ok (.deactivated 1), t) ∧
      Effect ⟨7, []⟩ .shared (.deactivate 1) (.deactivated 1) t) ∧
    ∃ e, (Operation.deactivate 2).run ⟨7, []⟩ .shared = (.error e, .shared) := by
  have hs : Store.shared.UniqueIds := by decide
  have hown : ((Operation.deactivate 1).run ⟨7, []⟩ .shared).1 = .ok (.deactivated 1) := by cbv
  have hother : ((Operation.deactivate 2).run ⟨7, []⟩ .shared).1 =
      .error (.refusal (.unknownBeneficiary (.int 2))) := by cbv
  obtain ⟨-, heffect⟩ := run_effect ⟨7, []⟩ .shared hs (.deactivate 1)
  obtain ⟨hnone, -⟩ := run_effect ⟨7, []⟩ .shared hs (.deactivate 2)
  exact ⟨hs, ⟨_, Prod.ext hown rfl, heffect _ _ (Prod.ext hown rfl)⟩,
    ⟨_, Prod.ext hother (hnone _ _ (Prod.ext hother rfl))⟩⟩

end Remit
