import Mathlib.Data.List.Induction
import Mathlib.Data.List.Perm.Basic
import Remit.Proofs.Store.Rows
import Remit.Transfer.Template

/-!
# The accounts of a user

`Bank.Owns` says which accounts a user owns, in terms of the bank's tables: the active accounts of
the clients that the user is mapped to. A list of handles may be a set of accounts
(`AccountHandle.IsSetOf`): it names each account once. Two such lists name the same accounts, so
they are of one length (`IsSetOf.length_eq`). The user's own accounts are the set of the accounts
owned (`selfAccounts_eq`), the source of a transfer is the only one of them
(`sourceAccount_of_isSetOf`), and third parties are the accounts of the user's active rows
(`beneficiaryAccounts_eq`, `thirdPartyDestinations_eq`).
-/

namespace Remit

/-! ## Lists of handles as sets of accounts -/

namespace AccountHandle

/-- A list that names each account of a property once. -/
structure IsSetOf (hs : List AccountHandle) (P : AccountHandle → Prop) : Prop where
  sound : ∀ h ∈ hs, P h
  once : hs.Pairwise fun h h' => h.key ≠ h'.key
  complete : ∀ h, P h → ∃ h' ∈ hs, h.key = h'.key

/-- The last handle counts unless there is one of its key before it. -/
theorem distinct_concat (hs : List AccountHandle) (h : AccountHandle) :
    distinct (hs ++ [h]) = if h.isIn (distinct hs) then distinct hs else distinct hs ++ [h] := by
  rw [distinct, List.foldl_concat]
  rfl

/-- Leaving out repeated accounts gives a set. -/
theorem isSetOf_distinct (hs : List AccountHandle) : IsSetOf (distinct hs) (· ∈ hs) := by
  induction hs using List.reverseRecOn with
  | nil => exact ⟨fun _ hh => hh, .nil, fun _ hh => nomatch hh⟩
  | append_singleton hs h ih =>
    rw [distinct_concat]
    split
    · next hin =>
      refine ⟨fun h' hh' => List.mem_append_left _ (ih.sound h' hh'), ih.once, fun h' hh' => ?_⟩
      rcases List.mem_append.1 hh' with hm | hm
      · exact ih.complete h' hm
      · obtain rfl := List.mem_singleton.1 hm
        exact isIn_iff.1 hin
    · next hin =>
      rw [isIn_iff] at hin
      refine ⟨fun h' hh' => ?_, ?_, fun h' hh' => ?_⟩
      · exact (List.mem_append.1 hh').elim (fun hm => List.mem_append_left _ (ih.sound h' hm))
          (List.mem_append_right _)
      · refine List.pairwise_append.2 ⟨ih.once, List.pairwise_singleton _ _, fun a ha b hb => ?_⟩
        obtain rfl := List.mem_singleton.1 hb
        exact fun hkey => hin ⟨a, ha, hkey.symm⟩
      · rcases List.mem_append.1 hh' with hm | hm
        · obtain ⟨a, ha, hkey⟩ := ih.complete h' hm
          exact ⟨a, List.mem_append_left _ ha, hkey⟩
        · exact ⟨h', List.mem_append_right _ hm, rfl⟩

variable {hs hs' : List AccountHandle} {P : AccountHandle → Prop}

/-- An account is in a set exactly if it is in the list that the set is made of. -/
theorem isIn_distinct {h : AccountHandle} : h.isIn (distinct hs) = true ↔ h.isIn hs = true := by
  rw [isIn_iff, isIn_iff]
  constructor
  · rintro ⟨h', hm, hkey⟩
    exact ⟨h', (isSetOf_distinct hs).sound h' hm, hkey⟩
  · rintro ⟨h', hm, hkey⟩
    obtain ⟨a, ha, hkey'⟩ := (isSetOf_distinct hs).complete h' hm
    exact ⟨a, ha, hkey.trans hkey'⟩

theorem isIn_of_mem {h : AccountHandle} (hm : h ∈ hs) : h.isIn hs = true := isIn_iff.2 ⟨h, hm, rfl⟩

/-- A set of accounts has no key twice. -/
theorem IsSetOf.nodup_keys (h : IsSetOf hs P) : (hs.map key).Nodup :=
  List.pairwise_map.2 h.once

/-- A set of accounts is determined up to the order of the accounts and what is displayed. -/
theorem IsSetOf.perm_keys (h : IsSetOf hs P) (h' : IsSetOf hs' P) :
    (hs.map key).Perm (hs'.map key) := by
  have sub : ∀ {l l'}, IsSetOf l P → IsSetOf l' P → ∀ k ∈ l.map key, k ∈ l'.map key := by
    intro l l' hl hl' k hk
    obtain ⟨a, ha, rfl⟩ := List.mem_map.1 hk
    obtain ⟨b, hb, hab⟩ := hl'.complete a (hl.sound a ha)
    exact List.mem_map.2 ⟨b, hb, hab.symm⟩
  exact (List.perm_ext_iff_of_nodup h.nodup_keys h'.nodup_keys).2 fun k =>
    ⟨sub h h' k, sub h' h k⟩

/-- Sets of the same accounts are of one size. -/
theorem IsSetOf.length_eq (h : IsSetOf hs P) (h' : IsSetOf hs' P) : hs.length = hs'.length := by
  simpa using (h.perm_keys h').length_eq

end AccountHandle

/-! ## Owned accounts -/

/-- The account of a row that a client of an office holds. -/
def AccountRow.handle (type : AccountType) (a : AccountRow) (c : Client) (o : Office) :
    AccountHandle where
  accountId := some a.id
  accountType := type.number
  clientId := some c.id
  officeId := some o.id
  accountNumber := a.number
  clientName := c.displayName
  officeName := o.name

namespace Bank

variable {b : Bank} {user : Int} {h : AccountHandle}

/-- An account of a table is active, and a client that a user is mapped to holds it at an office
that exists. -/
def Holds (b : Bank) (user : Int) (type : AccountType) (accounts : List AccountRow)
    (h : AccountHandle) : Prop :=
  ∃ a ∈ accounts, ∃ c ∈ b.clients, ∃ o ∈ b.offices, ∃ m ∈ b.mappings,
    a.status = some activeStatus ∧ a.clientId = some c.id ∧ c.officeId = some o.id ∧
    m.userId = some user ∧ m.clientId = some c.id ∧ h = a.handle type c o

/-- A user owns a savings account or a loan. -/
def Owns (b : Bank) (user : Int) (h : AccountHandle) : Prop :=
  b.Holds user .savings b.savings h ∨ b.Holds user .loan b.loans h

/-- The accounts of a kind that are listed for a user are those that the user holds. -/
theorem mem_ownedOf {type : AccountType} {accounts : List AccountRow} :
    h ∈ b.ownedOf type accounts user ↔ b.Holds user type accounts h := by
  simp only [ownedOf, List.mem_flatMap, List.mem_filter, mem_byId, List.mem_map, beq_iff_eq,
    Bool.and_eq_true, Holds]
  constructor
  · rintro ⟨a, ⟨ha, hstatus⟩, c, ⟨hc, hac⟩, o, ⟨ho, hco⟩, m, ⟨hm, hmu, hmc⟩, rfl⟩
    exact ⟨a, ha, c, hc, o, ho, m, hm, hstatus, hac, hco, hmu, hmc, rfl⟩
  · rintro ⟨a, ha, c, hc, o, ho, m, hm, hstatus, hac, hco, hmu, hmc, rfl⟩
    exact ⟨a, ⟨ha, hstatus⟩, c, ⟨hc, hac⟩, o, ⟨ho, hco⟩, m, ⟨hm, hmu, hmc⟩, rfl⟩

/-- Only a user whose number fits a column owns an account. -/
theorem Owns.fitsColumn {s : Store} (hf : s.FitsColumns) (ho : s.bank.Owns user h) :
    fitsColumn user = true := by
  have held : ∀ {type accounts}, s.bank.Holds user type accounts h →
      Remit.fitsColumn user = true := by
    rintro _ _ ⟨a, -, c, -, o, -, m, hm, -, -, -, hmu, -, -⟩
    exact hf.users m hm user hmu
  exact ho.elim held held

/-- An account that is owned is an account of this system. -/
theorem Owns.isResolved {b : Bank} (ho : b.Owns user h) : h.isResolved = true := by
  have held : ∀ {type accounts}, b.Holds user type accounts h → h.isResolved = true := by
    rintro _ _ ⟨a, -, c, -, o, -, m, -, -, -, -, -, -, rfl⟩
    rfl
  exact ho.elim held held

end Bank

namespace Template

variable {s : Store} {user : User}

/-- A user's own accounts are the set of the accounts owned. -/
theorem selfAccounts_eq (hu : fitsColumn user.id = true) :
    ∃ hs, selfAccounts s user = .ok hs ∧ AccountHandle.IsSetOf hs (s.bank.Owns user.id) := by
  have hset := AccountHandle.isSetOf_distinct
    (s.bank.ownedOf .savings s.bank.savings user.id ++ s.bank.ownedOf .loan s.bank.loans user.id)
  have hmem : ∀ h, h ∈ s.bank.ownedOf .savings s.bank.savings user.id ++
      s.bank.ownedOf .loan s.bank.loans user.id ↔ s.bank.Owns user.id h := fun h => by
    rw [List.mem_append, Bank.mem_ownedOf, Bank.mem_ownedOf, Bank.Owns]
  refine ⟨_, ?_, ⟨fun h hh => (hmem h).1 (hset.sound h hh), hset.once,
    fun h hh => hset.complete h ((hmem h).2 hh)⟩⟩
  rw [selfAccounts, Bank.ownedAccounts, column_of_fits hu]
  rfl

/-- A user whose id fits no column has no list of accounts … -/
theorem selfAccounts_of_not_fits (hu : fitsColumn user.id = false) :
    selfAccounts s user = .error .integerTooWide := by
  rw [selfAccounts, Bank.ownedAccounts, column_of_not_fits hu]
  rfl

/-- … and no source account. -/
theorem sourceAccount_of_not_fits (hu : fitsColumn user.id = false) :
    sourceAccount s user = .error (.breakdown .integerTooWide) := by
  rw [sourceAccount, selfAccounts_of_not_fits hu]
  rfl

/-- A user who owns one account transfers from it. -/
theorem sourceAccount_of_isSetOf (hu : fitsColumn user.id = true) {source : AccountHandle}
    (h : AccountHandle.IsSetOf [source] (s.bank.Owns user.id)) :
    ∃ source', selfAccounts s user = .ok [source'] ∧ sourceAccount s user = .ok source' ∧
      source'.key = source.key := by
  obtain ⟨hs, hself, hset⟩ := selfAccounts_eq (s := s) hu
  obtain ⟨source', rfl⟩ := List.length_eq_one_iff.1 (hset.length_eq h)
  obtain ⟨h', hm, hkey⟩ := h.complete source' (hset.sound source' List.mem_cons_self)
  obtain rfl := List.mem_singleton.1 hm
  exact ⟨source', hself, by rw [sourceAccount, hself]; rfl, hkey⟩

/-- The source of a transfer is the only account of the user. -/
theorem sourceAccount_eq_ok {source : AccountHandle} (h : sourceAccount s user = .ok source) :
    selfAccounts s user = .ok [source] ∧ s.bank.Owns user.id source := by
  cases hu : fitsColumn user.id with
  | false =>
    rw [sourceAccount_of_not_fits hu] at h
    cases h
  | true =>
    obtain ⟨hs, hself, hset⟩ := selfAccounts_eq (s := s) hu
    rw [sourceAccount, hself] at h
    rcases hs with _ | ⟨h', _ | ⟨_, _⟩⟩
    · cases h
    · cases h
      exact ⟨hself, hset.sound _ List.mem_cons_self⟩
    · cases h

/-- A user without an account has none to transfer from. -/
theorem sourceAccount_of_none (hu : fitsColumn user.id = true)
    (h : ∀ h, ¬ s.bank.Owns user.id h) :
    sourceAccount s user = .error (.refusal .noOwnedAccount) := by
  obtain ⟨hs, hself, hset⟩ := selfAccounts_eq (s := s) hu
  obtain rfl : hs = [] := List.eq_nil_iff_forall_not_mem.2 fun a ha => h a (hset.sound a ha)
  rw [sourceAccount, hself]
  rfl

/-- A user of several accounts may not choose one. -/
theorem sourceAccount_of_several (hu : fitsColumn user.id = true) {hs : List AccountHandle}
    (h : AccountHandle.IsSetOf hs (s.bank.Owns user.id)) (hl : 2 ≤ hs.length) :
    sourceAccount s user = .error (.refusal (.multipleOwnedAccounts hs.length)) := by
  obtain ⟨hs', hself, hset⟩ := selfAccounts_eq (s := s) hu
  rw [h.length_eq hset] at hl ⊢
  rw [sourceAccount, hself]
  match hs', hl with
  | _ :: _ :: _, _ => rfl

/-! ## Third parties -/

/-- The candidates for a third party are the accounts of the active rows, in order. -/
theorem beneficiaryAccounts_eq (hs : s.WellFormed) (hu : fitsColumn user.id = true) :
    beneficiaryAccounts s user = .ok ((s.activeRows user.id).map (·.handle)) := by
  rw [beneficiaryAccounts, Store.listActive_eq hs hu]
  show Except.ok (List.map _ (List.map _ _)) = _
  rw [List.map_map]
  congr 1
  refine List.map_congr_left fun r hr => ?_
  exact BeneficiaryRow.handle_beneficiary (hs.types r (Store.mem_activeRows.1 hr).1)

/-- A third party is the account of an active row. -/
theorem exists_of_isIn_thirdPartyDestinations {hs : List AccountHandle}
    (h : thirdPartyDestinations s user = .ok hs) {destination : AccountHandle}
    (hin : destination.isIn hs = true) :
    ∃ r ∈ s.beneficiaries, r.isActiveOf user.id = true ∧ destination.key = r.handle.key := by
  rw [thirdPartyDestinations, beneficiaryAccounts] at h
  cases hbs : s.listActive user.id with
  | error b =>
    rw [hbs] at h
    cases h
  | ok bs =>
    rw [hbs] at h
    cases h
    obtain ⟨h', hm, hkey⟩ := AccountHandle.isIn_iff.1 (AccountHandle.isIn_distinct.1 hin)
    obtain ⟨b, hb, rfl⟩ := List.mem_map.1 (List.mem_filter.1 hm).1
    obtain ⟨r, hr, ha, hread⟩ := Store.exists_of_mem_listActive hbs hb
    exact ⟨r, hr, ha, by rw [hkey, BeneficiaryRow.handle_of_toBeneficiary hread]⟩

/-- The destinations among third parties are the accounts of the active rows with an account of this
system. -/
theorem thirdPartyDestinations_eq (hs : s.WellFormed) (hu : fitsColumn user.id = true) :
    ∃ hs, thirdPartyDestinations s user = .ok hs ∧ ∀ h : AccountHandle, h.isIn hs = true ↔
      ∃ r ∈ s.beneficiaries, r.isActiveOf user.id = true ∧ r.accountId.isSome = true ∧
        h.key = r.handle.key := by
  refine ⟨_, by rw [thirdPartyDestinations, beneficiaryAccounts_eq hs hu]; rfl, fun h => ?_⟩
  rw [AccountHandle.isIn_distinct, AccountHandle.isIn_iff]
  constructor
  · rintro ⟨h', hm, hkey⟩
    obtain ⟨hm, hresolved⟩ := List.mem_filter.1 hm
    obtain ⟨r, hr, rfl⟩ := List.mem_map.1 hm
    obtain ⟨hr, hactive⟩ := Store.mem_activeRows.1 hr
    exact ⟨r, hr, hactive, hresolved, hkey⟩
  · rintro ⟨r, hr, hactive, hresolved, hkey⟩
    exact ⟨r.handle, List.mem_filter.2 ⟨List.mem_map.2 ⟨r, Store.mem_activeRows.2 ⟨hr, hactive⟩,
      rfl⟩, hresolved⟩, hkey⟩

/-- A number that fits no column is the id of a user without candidates. -/
theorem candidates_of_not_fits (hu : fitsColumn user.id = false) (type : TransferType) :
    candidates s user type = .error .integerTooWide := by
  cases type with
  | self =>
    rw [candidates, selfAccounts_of_not_fits hu]
    rfl
  | tpt =>
    rw [candidates, beneficiaryAccounts, Store.listActive, column_of_not_fits hu]
    rfl

end Template

end Remit
