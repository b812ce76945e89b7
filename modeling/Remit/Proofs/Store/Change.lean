import Mathlib
import Remit.Proofs.Store.Write
import Remit.Proofs.Value.Equality
import Remit.Registry

/-!
# Writing what differs

An update of a beneficiary writes the supplied fields that differ from the row it has read
(`Registry.requestedChanges_eq`). Written into this row they give the same as all supplied fields
(`BeneficiaryUpdate.unlike_onto`); written into another row they may not. The write ends well
exactly if the limit fits its column and no other active row of the user has the name
(`Store.saveChanges_fields`).
-/

namespace Remit

/-! ## Fields of an update -/

namespace Supplied

variable {α : Type}

/-- The value that a field has after an update of it. -/
def onto (old : α) : Supplied α → α
  | .absent => old
  | .given a => a

/-- A field of an update, left alone where it supplies the old value. -/
def unlike [DecidableEq α] (old : α) : Supplied α → Supplied α
  | .absent => .absent
  | .given a => if a = old then .absent else .given a

/-- A supplied field under its name. -/
def named (name : String) (toValue : α → Value) : Supplied α → Fields
  | .absent => []
  | .given a => [(name, toValue a)]

variable [DecidableEq α]

/-- A field that is put onto the old one comes to the same if it was dropped for being equal. -/
@[simp] theorem onto_unlike (u : Supplied α) (old : α) : (u.unlike old).onto old = u.onto old := by
  cases u with
  | absent => rfl
  | given a =>
    by_cases h : a = old
    · simp [unlike, onto, h]
    · simp [unlike, onto, h]

theorem unlike_given_of_ne {a old : α} (h : a ≠ old) : (given a).unlike old = given a := if_neg h

@[simp] theorem unlike_given_self (a : α) : (given a).unlike a = absent := if_pos rfl

end Supplied

/-- A field of an update that is compared with a stored value is the field that is unlike it. -/
theorem Beneficiary.change_eq {α : Type} [DecidableEq α] {toValue : α → Value}
    (hequal : ∀ a b, (toValue a).equal? (toValue b) = .ok (decide (a = b))) (name : String)
    (u : Supplied α) (old : α) :
    Beneficiary.change name (match u with | .absent => .absent | .given a => .given (toValue a))
      (toValue old) = .ok ((u.unlike old).named name toValue) := by
  cases u with
  | absent => rfl
  | given a =>
    simp only [Beneficiary.change, hequal]
    by_cases h : a = old
    · rw [decide_eq_true h, h, Supplied.unlike_given_self]
      rfl
    · rw [decide_eq_false h, Supplied.unlike_given_of_ne h]
      rfl

namespace Request.BeneficiaryUpdate

variable (u : BeneficiaryUpdate) (r : BeneficiaryRow)

/-- A row with the supplied fields of an update. -/
def onto : BeneficiaryRow :=
  { r with name := u.name.onto r.name, transferLimit := u.transferLimit.onto r.transferLimit }

/-- The supplied fields of an update that differ from a row. -/
def unlike : BeneficiaryUpdate where
  name := u.name.unlike r.name
  transferLimit := u.transferLimit.unlike r.transferLimit

/-- The supplied fields of an update with their names. -/
def fields : Fields := u.name.named "name" .text ++ u.transferLimit.named "transferLimit" .ofInt?

/-- The limit of an update fits into its column. -/
def Fits : Prop := ∀ limit, u.transferLimit = .given (some limit) → fitsColumn limit = true

/-- The new cells that an update makes. -/
def cells : Store.Cells where
  name := match u.name with
    | .absent => none
    | .given name => some (some name)
  transferLimit := match u.transferLimit with
    | .absent => none
    | .given limit => some limit

/-- Written into the row that they differ from, the fields that differ give the same as all. -/
@[simp] theorem unlike_onto : (u.unlike r).onto r = u.onto r := by
  simp only [onto, unlike, Supplied.onto_unlike]

variable {u r}

/-- An update without fields supplies nothing. -/
theorem eq_of_isEmpty (h : u.fields.isEmpty = true) : u = ⟨.absent, .absent⟩ := by
  obtain ⟨_ | name, _ | limit⟩ := u
  · rfl
  all_goals cases h

/-- An update whose fields are all as they were changes nothing. -/
theorem onto_of_isEmpty (h : (u.unlike r).fields.isEmpty = true) : u.onto r = r := by
  rw [← unlike_onto, eq_of_isEmpty h]
  rfl

/-- The name of an update is among its fields exactly if it is supplied … -/
theorem lookup_name : u.fields.lookup "name" =
    match u.name with
    | .absent => none
    | .given name => some (.text name) := by
  obtain ⟨_ | name, _ | limit⟩ := u <;> rfl

/-- … and so is the limit. -/
theorem lookup_transferLimit : u.fields.lookup "transferLimit" =
    match u.transferLimit with
    | .absent => none
    | .given limit => some (.ofInt? limit) := by
  obtain ⟨_ | name, _ | limit⟩ := u <;> rfl

/-- There is a cell to write exactly if there is a field. -/
theorem isEmpty_cells : u.cells.isEmpty = u.fields.isEmpty := by
  obtain ⟨_ | name, _ | limit⟩ := u <;> rfl

/-- What fits into its columns is put into cells. -/
theorem ofFields_of_fits (h : u.Fits) : Store.Cells.ofFields u.fields = .ok u.cells := by
  rw [Store.Cells.ofFields, lookup_name, lookup_transferLimit, cells]
  obtain ⟨name, limit⟩ := u
  cases limit with
  | absent => cases name <;> rfl
  | given l =>
    have hlimit : Cell.int (.ofInt? l) = .ok l :=
      Cell.int_of_fits fun i hi => h i (congrArg Supplied.given hi)
    simp only [Option.mapM_some, hlimit]
    cases name <;> rfl

/-- A limit that does not fit into its column is put into no cell. -/
theorem ofFields_of_not_fits (h : ¬ u.Fits) :
    Store.Cells.ofFields u.fields = .error .integerTooWide := by
  rw [Store.Cells.ofFields, lookup_name, lookup_transferLimit]
  obtain ⟨name, limit⟩ := u
  have hlimit : ∃ i, limit = .given (some i) ∧ fitsColumn i = false := by
    by_contra hnone
    refine h fun i hi => ?_
    by_contra hfits
    exact hnone ⟨i, hi, by simpa using hfits⟩
  obtain ⟨i, rfl, hi⟩ := hlimit
  have hcell : Cell.int (.ofInt? (some i)) = .error .integerTooWide := by
    rw [Value.ofInt?, Cell.int, column_of_not_fits hi]
    rfl
  simp only [Option.mapM_some, hcell]
  cases name <;> rfl

end Request.BeneficiaryUpdate

namespace Registry

/-- The requested changes are the supplied fields that differ from the row. -/
theorem requestedChanges_eq {r : BeneficiaryRow} (hk : r.IsKnown)
    (u : Request.BeneficiaryUpdate) :
    requestedChanges r.beneficiary u = .ok (u.unlike r).fields := by
  have hrow : r.beneficiary.name = r.name ∧ r.beneficiary.transferLimit = r.transferLimit := by
    obtain ⟨t, ht, -⟩ := hk.exists_number
    simp [BeneficiaryRow.beneficiary, BeneficiaryRow.toBeneficiary, ht, Except.toOption]
  have hname := Beneficiary.change_eq Value.equal?_text "name" u.name r.name
  have hlimit := Beneficiary.change_eq Value.equal?_ofInt? "transferLimit" u.transferLimit
    r.transferLimit
  simp only [requestedChanges, Beneficiary.changes, hrow]
  obtain ⟨_ | name, _ | limit⟩ := u <;> simp only at hname hlimit <;>
    simp only [hname, hlimit] <;> rfl

end Registry

namespace Store

variable {s : Store} {r : BeneficiaryRow} {u : Request.BeneficiaryUpdate}

/-- The cells of an update are written into an active row if the store admits the row. -/
theorem write_cells (ha : r.isActive = true) :
    u.cells.write s r = s.checkName (u.onto r) := by
  rw [Cells.write_eq]
  simp only [if_pos ha]
  obtain ⟨_ | name, _ | limit⟩ := u <;> rfl

/-- An update of an active row that fits and supplies something is written if the store admits the
row, and refused otherwise. -/
theorem saveChanges_fields_of_fits (hs : s.UniqueIds) (hr : r ∈ s.beneficiaries)
    (ha : r.isActive = true) (hne : u.fields.isEmpty = false) (hid : fitsColumn r.id = true)
    (hfits : u.Fits) :
    ¬ s.Admits (u.onto r) ∧
      (∃ e, (saveChanges r.id u.fields).result s = (.error (.refusal e), s)) ∨
    s.Admits (u.onto r) ∧
      (saveChanges r.id u.fields).result s = (.ok (), s.mapRow r.id fun _ => u.onto r) := by
  have hfind : s.beneficiaries.find? (·.id == r.id) = some r :=
    find?_eq_of_id hs hr (by simp) fun _ _ h => by simpa using h
  rw [result_saveChanges, Request.BeneficiaryUpdate.ofFields_of_fits hfits]
  simp only [Request.BeneficiaryUpdate.isEmpty_cells, hne, hid, Bool.false_eq_true,
    Bool.true_eq_false, if_false, hfind, write_cells ha]
  by_cases hadmits : s.Admits (u.onto r)
  · rw [checkName_eq_ok.2 ⟨hadmits, rfl⟩]
    exact .inr ⟨hadmits, rfl⟩
  · rw [checkName_of_not_admits hadmits]
    obtain ⟨e, he⟩ := exists_outcome_refuseViolation Unit .nameTaken (u.fields.get "name")
    exact .inl ⟨hadmits, e, congrArg (·, s) he⟩

/-- An update of an active row that supplies something is written if it fits and the store admits
the row, and fails otherwise. -/
theorem saveChanges_fields (hs : s.UniqueIds) (hr : r ∈ s.beneficiaries) (ha : r.isActive = true)
    (hne : u.fields.isEmpty = false) :
    (∃ e, (saveChanges r.id u.fields).result s = (.error e, s)) ∧
      ¬ (fitsColumn r.id = true ∧ u.Fits ∧ s.Admits (u.onto r)) ∨
    (fitsColumn r.id = true ∧ u.Fits ∧ s.Admits (u.onto r)) ∧
      (saveChanges r.id u.fields).result s = (.ok (), s.mapRow r.id fun _ => u.onto r) := by
  by_cases hfits : u.Fits
  · by_cases hid : fitsColumn r.id = true
    · rcases saveChanges_fields_of_fits hs hr ha hne hid hfits with ⟨hadmits, e, h⟩ | ⟨hadmits, h⟩
      · exact .inl ⟨⟨_, h⟩, fun hall => hadmits hall.2.2⟩
      · exact .inr ⟨⟨hid, hfits, hadmits⟩, h⟩
    · rw [result_saveChanges, Request.BeneficiaryUpdate.ofFields_of_fits hfits]
      simp only [Request.BeneficiaryUpdate.isEmpty_cells, hne, Bool.false_eq_true, if_false]
      rw [if_pos (by simpa using hid)]
      exact .inl ⟨⟨_, rfl⟩, fun h => hid h.1⟩
  · rw [result_saveChanges, Request.BeneficiaryUpdate.ofFields_of_not_fits hfits]
    exact .inl ⟨⟨_, rfl⟩, fun h => hfits h.2.1⟩

end Store

end Remit
