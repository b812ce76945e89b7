import Remit.Proofs.Lists

/-!
# What the questions of the store answer

A well-formed store (`Store.WellFormed`) gives each beneficiary an id of its own and an account kind
that exists. In such a store every active row stands for a beneficiary
(`BeneficiaryRow.toBeneficiary_eq`), and each question has its answer in terms of rows: the lowest
row with a property (`find?_byId_eq_some_iff`), the active row of an id (`findActive_of_mem`,
`findActive_of_forall`), the active rows of a user (`listActive_eq`), and the strictest limit on an
account (`transferLimit_eq`, `min?_limitsOn_eq_some_iff`).
-/

namespace Remit

/-! ## Rows in the order of their ids -/

section
variable {α : Type} {id : α → Int} {rows : List α}

/-- Putting rows in order keeps them … -/
@[simp] theorem mem_byId {r : α} : r ∈ byId id rows ↔ r ∈ rows := List.mem_mergeSort

/-- … and puts the lower ids first. -/
theorem pairwise_byId : (byId id rows).Pairwise fun r r' => id r ≤ id r' := by
  have h : (byId id rows).Pairwise fun a b => decide (id a ≤ id b) = true :=
    List.pairwise_mergeSort (by simp only [decide_eq_true_eq]; intro a b c; omega)
      (by simp only [Bool.or_eq_true, decide_eq_true_eq]; intro a b; omega) rows
  exact h.imp (by simp)

/-- A key is that of one row. -/
theorem eq_of_id_eq (hn : (rows.map id).Nodup) {r r' : α} (hr : r ∈ rows) (hr' : r' ∈ rows)
    (h : id r = id r') : r = r' :=
  List.inj_on_of_nodup_map hn hr hr' h

/-- The only row with a property is found. -/
theorem find?_eq_of_id (hn : (rows.map id).Nodup) {p : α → Bool} {r : α} (hr : r ∈ rows)
    (hp : p r = true) (h : ∀ r' ∈ rows, p r' = true → id r' = id r) : rows.find? p = some r := by
  obtain ⟨r', hr'⟩ := Option.isSome_iff_exists.1 (List.find?_isSome.2 ⟨r, hr, hp⟩)
  have hm := List.mem_of_find?_eq_some hr'
  rw [hr', eq_of_id_eq hn hm hr (h r' hm (List.find?_some hr'))]

/-- A row found in order is the lowest one with the property. -/
theorem le_of_find?_byId {p : α → Bool} {r : α} (h : (byId id rows).find? p = some r) :
    ∀ r' ∈ rows, p r' = true → id r ≤ id r' := by
  obtain ⟨-, as, bs, hsplit, has⟩ := List.find?_eq_some_iff_append.1 h
  intro r' hr' hp
  have hsorted : (byId id rows).Pairwise fun a b => id a ≤ id b := pairwise_byId
  have hmem : r' ∈ byId id rows := mem_byId.2 hr'
  rw [hsplit] at hsorted hmem
  rcases List.mem_append.1 hmem with hm | hm
  · simpa [hp] using has r' hm
  · rcases List.mem_cons.1 hm with rfl | hm
    · exact Int.le_refl _
    · exact List.rel_of_pairwise_cons (List.pairwise_append.1 hsorted).2.1 hm

/-- The first row in order with a property is the one with the lowest id. -/
theorem find?_byId_eq_some_iff (hn : (rows.map id).Nodup) {p : α → Bool} {r : α} :
    (byId id rows).find? p = some r ↔
      r ∈ rows ∧ p r = true ∧ ∀ r' ∈ rows, p r' = true → id r ≤ id r' := by
  constructor
  · intro h
    exact ⟨mem_byId.1 (List.mem_of_find?_eq_some h), List.find?_some h, le_of_find?_byId h⟩
  · rintro ⟨hr, hp, hle⟩
    have hmem : r ∈ byId id rows := mem_byId.2 hr
    obtain ⟨r', hr'⟩ := Option.isSome_iff_exists.1 (List.find?_isSome.2 ⟨r, hmem, hp⟩)
    have hm := mem_byId.1 (List.mem_of_find?_eq_some hr')
    have h1 := hle r' hm (List.find?_some hr')
    have h2 := le_of_find?_byId hr' r hr hp
    rw [hr', eq_of_id_eq hn hm hr (by omega)]

end

/-! ## Rows as beneficiaries -/

namespace BeneficiaryRow

/-- Whether the account kind of a row exists. -/
def IsKnown (r : BeneficiaryRow) : Prop := r.accountType = 1 ∨ r.accountType = 2

instance (r : BeneficiaryRow) : Decidable r.IsKnown := inferInstanceAs (Decidable (_ ∨ _))

/-- The beneficiary of a row whose account kind exists. -/
def beneficiary (r : BeneficiaryRow) : Beneficiary := r.toBeneficiary.toOption.getD default

/-- The account that a row stands for. -/
def handle (r : BeneficiaryRow) : AccountHandle where
  accountId := r.accountId
  accountType := r.accountType
  clientId := r.clientId
  officeId := r.officeId
  accountNumber := some r.accountNumber
  clientName := some r.accountName

variable {r : BeneficiaryRow}

/-- A known kind is the one of its number. -/
theorem IsKnown.exists_number (h : r.IsKnown) :
    ∃ t : AccountType, AccountType.ofNumber? r.accountType = some t ∧ t.number = r.accountType := by
  rcases h with h | h
  · exact ⟨.loan, by rw [h]; rfl, h.symm⟩
  · exact ⟨.savings, by rw [h]; rfl, h.symm⟩

/-- A row of a known kind is read as a beneficiary … -/
theorem toBeneficiary_eq (h : r.IsKnown) : r.toBeneficiary = .ok r.beneficiary := by
  obtain ⟨t, ht, -⟩ := h.exists_number
  simp [beneficiary, toBeneficiary, ht, Except.toOption]

/-- … of the same user, … -/
theorem userId_beneficiary (h : r.IsKnown) : r.beneficiary.userId = r.userId := by
  obtain ⟨t, ht, -⟩ := h.exists_number
  simp [beneficiary, toBeneficiary, ht, Except.toOption]

/-- … which is active exactly if the row is. -/
theorem isActive_beneficiary (h : r.IsKnown) : r.beneficiary.isActive = r.isActive := by
  obtain ⟨t, ht, -⟩ := h.exists_number
  simp [beneficiary, toBeneficiary, ht, Except.toOption, Beneficiary.isActive]

/-- Only a row whose account kind exists can be read. -/
theorem of_toBeneficiary {b : Beneficiary} (h : r.toBeneficiary = .ok b) :
    r.IsKnown ∧ b = r.beneficiary := by
  have hk : r.IsKnown := by
    unfold toBeneficiary at h
    split at h
    · cases h
    · next type htype =>
      rw [IsKnown, ← AccountType.ofNumber?_eq_some_iff.1 htype]
      cases type
      · exact .inl rfl
      · exact .inr rfl
  exact ⟨hk, Except.ok.inj (h.symm.trans (toBeneficiary_eq hk))⟩

/-- A beneficiary that is read from a row stands for the account of the row. -/
theorem handle_of_toBeneficiary {b : Beneficiary} (h : r.toBeneficiary = .ok b) :
    b.handle = r.handle := by
  unfold toBeneficiary at h
  split at h
  · cases h
  · next type htype =>
    cases h
    rw [Beneficiary.handle, AccountType.ofNumber?_eq_some_iff.1 htype, handle]

/-- A row is active for a user exactly if it is active and the user's. -/
@[simp] theorem isActiveOf_iff {user : Int} :
    r.isActiveOf user = true ↔ r.isActive = true ∧ r.userId = user := by
  simp [isActiveOf]

/-- A row of a known kind and its beneficiary stand for one account. -/
theorem handle_beneficiary (h : r.IsKnown) : r.beneficiary.handle = r.handle :=
  handle_of_toBeneficiary (toBeneficiary_eq h)

end BeneficiaryRow

/-! ## Answers -/

/-- A number that fits a column is stored as it is … -/
theorem column_of_fits {i : Int} (h : fitsColumn i = true) : column i = .ok i := by simp [column, h]

/-- … and another one is not stored. -/
theorem column_of_not_fits {i : Int} (h : fitsColumn i = false) :
    column i = .error .integerTooWide := by simp [column, h]

namespace Store

/-- Each row has an id of its own. -/
def UniqueIds (s : Store) : Prop := (s.beneficiaries.map (·.id)).Nodup

instance (s : Store) : Decidable s.UniqueIds := inferInstanceAs (Decidable (List.Nodup _))

/-- A table of beneficiaries as the service keeps it: the ids are keys, and the account kinds
exist. -/
structure WellFormed (s : Store) : Prop where
  ids : s.UniqueIds
  types : ∀ r ∈ s.beneficiaries, r.IsKnown

/-- A store whose numbers fit into their columns: the accounts of beneficiaries, and the users who
are mapped to clients. -/
structure FitsColumns (s : Store) : Prop where
  accounts : ∀ r ∈ s.beneficiaries, ∀ i, r.accountId = some i → fitsColumn i = true
  users : ∀ m ∈ s.bank.mappings, ∀ i, m.userId = some i → fitsColumn i = true

/-- The active rows of a user in the order of their ids. -/
def activeRows (s : Store) (user : Int) : List BeneficiaryRow :=
  byId (·.id) (s.beneficiaries.filter (·.isActiveOf user))

/-- A positive limit that an active row of a user sets on an account. -/
def IsLimit (s : Store) (user : Int) (account : Option Int) (type limit : Int) : Prop :=
  ∃ r ∈ s.beneficiaries, r.isActiveOf user = true ∧ r.accountId = account ∧ r.accountType = type ∧
    r.transferLimit = some limit ∧ 0 < limit

variable {s : Store} {user : Int}

/-- Some of the rows have unique ids if all have. -/
theorem UniqueIds.filter (h : s.UniqueIds) (p : BeneficiaryRow → Bool) :
    ((s.beneficiaries.filter p).map (·.id)).Nodup :=
  h.sublist (List.filter_sublist.map _)

/-- The active rows of a user are those that are active and the user's. -/
@[simp] theorem mem_activeRows {r : BeneficiaryRow} :
    r ∈ s.activeRows user ↔ r ∈ s.beneficiaries ∧ r.isActiveOf user = true := by
  rw [activeRows, mem_byId, List.mem_filter]

/-- What is listed was read from the active rows. -/
theorem exists_of_mem_listActive {bs : List Beneficiary} (h : s.listActive user = .ok bs)
    {b : Beneficiary} (hb : b ∈ bs) :
    ∃ r ∈ s.beneficiaries, r.isActiveOf user = true ∧ r.toBeneficiary = .ok b := by
  obtain ⟨user', hcolumn, h⟩ := bind_eq_ok.1 h
  obtain ⟨r, hr, hread⟩ := exists_of_mem_forall₂ (forall₂_of_mapM h) hb
  have huser : user' = user := by
    unfold column at hcolumn
    split at hcolumn
    · cases hcolumn; rfl
    · cases hcolumn
  obtain ⟨hr, ha⟩ := List.mem_filter.1 (mem_byId.1 hr)
  exact ⟨r, hr, huser ▸ ha, hread⟩

/-- A user's active beneficiaries are those of the active rows, in order. -/
theorem listActive_eq (hs : s.WellFormed) (hu : fitsColumn user = true) :
    s.listActive user = .ok ((s.activeRows user).map (·.beneficiary)) := by
  have h : ∀ rows : List BeneficiaryRow, (∀ r ∈ rows, r.IsKnown) →
      rows.mapM (·.toBeneficiary) = (.ok (rows.map (·.beneficiary)) : Except Breakdown _) := by
    intro rows hrows
    induction rows with
    | nil => rfl
    | cons r rows ih =>
      rw [List.mapM_cons, BeneficiaryRow.toBeneficiary_eq (hrows r List.mem_cons_self),
        ih fun r' hr' => hrows r' (List.mem_cons_of_mem _ hr')]
      rfl
  have hrows : ∀ r ∈ s.activeRows user, r.IsKnown := fun r hr => hs.types r (mem_activeRows.1 hr).1
  rw [listActive, column_of_fits hu]
  exact h _ hrows

/-- The active row of an id is found. -/
theorem findActive_of_mem (hs : s.UniqueIds) {r : BeneficiaryRow} (hr : r ∈ s.beneficiaries)
    (hk : r.IsKnown) (ha : r.isActive = true) (hid : fitsColumn r.id = true) :
    s.findActive r.id = .ok (some r.beneficiary) := by
  have hf : s.beneficiaries.find? (fun r' => r'.id == r.id && r'.isActive) = some r :=
    find?_eq_of_id hs hr (by simp [ha]) fun r' _ hp => by
      simp only [Bool.and_eq_true, beq_iff_eq] at hp
      exact hp.1
  rw [findActive, column_of_fits hid]
  show Option.mapM _ (s.beneficiaries.find? _) = _
  rw [hf]
  show (some <$> r.toBeneficiary : Except Breakdown _) = _
  rw [BeneficiaryRow.toBeneficiary_eq hk]
  rfl

/-- Where no active row has an id, nothing is found. -/
theorem findActive_of_forall {id : Int} (hid : fitsColumn id = true)
    (h : ∀ r ∈ s.beneficiaries, r.id = id → r.isActive = false) : s.findActive id = .ok none := by
  have hf : s.beneficiaries.find? (fun r => r.id == id && r.isActive) = none := by
    rw [List.find?_eq_none]
    intro r hr
    by_cases hrid : r.id = id
    · simp [h r hr hrid]
    · simp [hrid]
  rw [findActive, column_of_fits hid]
  show Option.mapM _ (s.beneficiaries.find? _) = _
  rw [hf]
  rfl

/-- Looking for the active beneficiary of an id breaks down, finds nothing, or finds a row. -/
theorem findActive_cases (s : Store) (id : Int) :
    (∃ e, s.findActive id = .error e) ∨ s.findActive id = .ok none ∨
    fitsColumn id = true ∧ ∃ r ∈ s.beneficiaries, r.id = id ∧ r.isActive = true ∧ r.IsKnown ∧
      s.findActive id = .ok (some r.beneficiary) := by
  unfold findActive
  cases hid : fitsColumn id with
  | false =>
    rw [column_of_not_fits hid]
    exact .inl ⟨_, rfl⟩
  | true =>
    rw [column_of_fits hid]
    show (∃ e, Option.mapM _ (s.beneficiaries.find? _) = _) ∨
      Option.mapM _ (s.beneficiaries.find? _) = _ ∨
      _ ∧ ∃ r ∈ s.beneficiaries, _ ∧ _ ∧ _ ∧ Option.mapM _ (s.beneficiaries.find? _) = _
    cases hfind : s.beneficiaries.find? fun r => r.id == id && r.isActive with
    | none => exact .inr (.inl rfl)
    | some r =>
      show (∃ e, (some <$> r.toBeneficiary : Except Breakdown _) = _) ∨ _ ∨
        _ ∧ ∃ r' ∈ s.beneficiaries, _ ∧ _ ∧ _ ∧ (some <$> r.toBeneficiary : Except Breakdown _) = _
      cases hb : r.toBeneficiary with
      | error e => exact .inl ⟨_, rfl⟩
      | ok b =>
        obtain ⟨hk, rfl⟩ := BeneficiaryRow.of_toBeneficiary hb
        have hp := List.find?_some hfind
        simp only [Bool.and_eq_true, beq_iff_eq] at hp
        exact .inr (.inr ⟨rfl, r, List.mem_of_find?_eq_some hfind, hp.1, hp.2, hk, rfl⟩)

/-! ## Limits -/

/-- The limits on an account are those of the user's active rows for it. -/
theorem mem_limitsOn {account : Option Int} (ha : account.isSome = true) {type limit : Int} :
    limit ∈ s.limitsOn user account type ↔ s.IsLimit user account type limit := by
  simp only [limitsOn, List.mem_filter, List.mem_filterMap, decide_eq_true_eq, Bool.and_eq_true,
    beq_iff_eq, ha, IsLimit]
  constructor
  · rintro ⟨⟨r, ⟨hr, ⟨⟨hu, -⟩, hacc⟩, htype⟩, hl⟩, hpos⟩
    exact ⟨r, hr, hu, hacc, htype, hl, hpos⟩
  · rintro ⟨r, hr, hu, hacc, htype, hl, hpos⟩
    exact ⟨⟨r, ⟨hr, ⟨⟨hu, trivial⟩, hacc⟩, htype⟩, hl⟩, hpos⟩

/-- The strictest of the limits on an account. -/
theorem min?_limitsOn_eq_some_iff {account : Option Int} (ha : account.isSome = true)
    {type limit : Int} : (s.limitsOn user account type).min? = some limit ↔
      s.IsLimit user account type limit ∧ ∀ l, s.IsLimit user account type l → limit ≤ l := by
  rw [List.min?_eq_some_iff, mem_limitsOn ha]
  simp only [mem_limitsOn ha]

/-- There is no strictest limit exactly if there is no limit. -/
theorem min?_limitsOn_eq_none_iff {account : Option Int} (ha : account.isSome = true)
    {type : Int} : (s.limitsOn user account type).min? = none ↔
      ∀ l, ¬ s.IsLimit user account type l := by
  rw [List.min?_eq_none_iff, List.eq_nil_iff_forall_not_mem]
  simp only [mem_limitsOn ha]

/-- The stored limit on an account is the strictest one. -/
theorem transferLimit_eq (hu : fitsColumn user = true) {account type : Int}
    (ha : fitsColumn account = true) (ht : fitsColumn type = true) :
    s.transferLimit user (some account) type = .ok (s.limitsOn user (some account) type).min? := by
  rw [transferLimit, column_of_fits hu, column_of_fits ht]
  show (do let _ ← some <$> column account; _) = _
  rw [column_of_fits ha]
  rfl

end Store

end Remit
