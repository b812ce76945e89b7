import Remit.Proofs.Store.Savings
import Remit.Proofs.Transfer.Accounts

/-!
# Owned accounts are counted as accounts

A user reaches an account in many ways: by every row that maps the user to the client who holds it.
The accounts are those that are reached at all (`Bank.Reaches`), and there are as many of them as
rows of active accounts that are reached (`Bank.length_of_isSetOf`), however often each is. How
often and in which order clients are mapped to the user makes no difference, not even to what is
displayed (`Template.selfAccounts_congr`). So a user transfers from the only account, or is told how
many there are (`Template.owned_accounts_counted`). Only a user whose number fits no column is told
nothing (`Template.wide_user_not_counted`).
-/

namespace Remit

/-! ## What is reached -/

namespace Bank

/-- A user is mapped to a client. -/
def Maps (b : Bank) (user client : Int) : Prop :=
  ∃ m ∈ b.mappings, m.userId = some user ∧ m.clientId = some client

/-- A user reaches an account of a table: the account is active, and a client that the user is
mapped to holds it; the rows of the client and of the client's office exist. -/
structure Reaches (b : Bank) (user : Int) (a : AccountRow) (c : Client) (o : Office) : Prop where
  active : a.status = some activeStatus
  client : c ∈ b.clients
  holds : a.clientId = some c.id
  office : o ∈ b.offices
  located : c.officeId = some o.id
  mapped : b.Maps user c.id

/-- The rows of a table that a user reaches. -/
def reachedRows (b : Bank) (user : Int) (accounts : List AccountRow) : List AccountRow :=
  accounts.filter fun a => a.status == some activeStatus && b.clients.any fun c =>
    a.clientId == some c.id && b.offices.any (fun o => c.officeId == some o.id) &&
      b.mappings.any fun m => m.userId == some user && m.clientId == some c.id

variable {b : Bank} {user : Int}

/-- The rows that are reached are those of clients of the user. -/
theorem mem_reachedRows {accounts : List AccountRow} {a : AccountRow} :
    a ∈ b.reachedRows user accounts ↔ a ∈ accounts ∧ ∃ c o, b.Reaches user a c o := by
  simp only [reachedRows, List.mem_filter, Bool.and_eq_true, List.any_eq_true, beq_iff_eq]
  refine and_congr_right fun _ => ?_
  constructor
  · rintro ⟨hactive, c, hc, ⟨hholds, o, ho, hlocated⟩, m, hm, hmu, hmc⟩
    exact ⟨c, o, hactive, hc, hholds, ho, hlocated, m, hm, hmu, hmc⟩
  · rintro ⟨c, o, h⟩
    obtain ⟨m, hm, hmu, hmc⟩ := h.mapped
    exact ⟨h.active, c, h.client, ⟨h.holds, o, h.office, h.located⟩, m, hm, hmu, hmc⟩

/-- What a user holds in a table is what the user reaches. -/
theorem holds_iff_reaches {type : AccountType} {accounts : List AccountRow} {h : AccountHandle} :
    b.Holds user type accounts h ↔
      ∃ a ∈ accounts, ∃ c o, b.Reaches user a c o ∧ h = a.handle type c o := by
  constructor
  · rintro ⟨a, ha, c, hc, o, ho, m, hm, hactive, hholds, hlocated, hmu, hmc, rfl⟩
    exact ⟨a, ha, c, o, ⟨hactive, hc, hholds, ho, hlocated, m, hm, hmu, hmc⟩, rfl⟩
  · rintro ⟨a, ha, c, o, h, rfl⟩
    obtain ⟨m, hm, hmu, hmc⟩ := h.mapped
    exact ⟨a, ha, c, h.client, o, h.office, m, hm, h.active, h.holds, h.located, hmu, hmc, rfl⟩

/-- An account is reached with one client and one office. -/
theorem Reaches.eq (hb : b.UniqueIds) {a : AccountRow} {c c' : Client} {o o' : Office}
    (h : b.Reaches user a c o) (h' : b.Reaches user a c' o') : c = c' ∧ o = o' := by
  have hclient : some c.id = some c'.id := h.holds.symm.trans h'.holds
  obtain rfl := eq_of_id_eq hb.clients h.client h'.client (Option.some_inj.1 hclient)
  have hoffice : some o.id = some o'.id := h.located.symm.trans h'.located
  exact ⟨rfl, eq_of_id_eq hb.offices h.office h'.office (Option.some_inj.1 hoffice)⟩

/-! ## Counting -/

/-- The kind and the number of an account. -/
def place (h : AccountHandle) : Int × Option Int := (h.accountType, h.accountId)

/-- The key of an account tells its place. -/
theorem place_of_key {h h' : AccountHandle} (hkey : h.key = h'.key) : place h = place h' := by
  obtain ⟨htype, hrest⟩ := Prod.mk.inj hkey
  rw [place, place, htype, (Prod.mk.inj hrest).1]

/-- Accounts of one table and number are one account. -/
theorem Holds.eq_of_accountId (hb : b.UniqueIds) {type : AccountType} {accounts : List AccountRow}
    (hn : (accounts.map (·.id)).Nodup) {h h' : AccountHandle} (hh : b.Holds user type accounts h)
    (hh' : b.Holds user type accounts h') (hid : h.accountId = h'.accountId) : h = h' := by
  obtain ⟨a, ha, c, o, hreach, rfl⟩ := holds_iff_reaches.1 hh
  obtain ⟨a', ha', c', o', hreach', rfl⟩ := holds_iff_reaches.1 hh'
  obtain rfl := eq_of_id_eq hn ha ha' (Option.some_inj.1 hid)
  obtain ⟨rfl, rfl⟩ := hreach.eq hb hreach'
  rfl

/-- An account is of the kind that it is held as. -/
theorem Holds.accountType_eq {type : AccountType} {accounts : List AccountRow} {h : AccountHandle}
    (hh : b.Holds user type accounts h) : h.accountType = type.number := by
  obtain ⟨a, -, c, o, -, rfl⟩ := holds_iff_reaches.1 hh
  rfl

/-- Owned accounts of one kind and number are one account. -/
theorem Owns.eq_of_place (hb : b.UniqueIds) {h h' : AccountHandle} (hh : b.Owns user h)
    (hh' : b.Owns user h') (hplace : place h = place h') : h = h' := by
  obtain ⟨htype, hid⟩ := Prod.mk.inj hplace
  rcases hh with hh | hh <;> rcases hh' with hh' | hh'
  · exact hh.eq_of_accountId hb hb.savings hh' hid
  · cases hh.accountType_eq.symm.trans (htype.trans hh'.accountType_eq)
  · cases hh.accountType_eq.symm.trans (htype.trans hh'.accountType_eq)
  · exact hh.eq_of_accountId hb hb.loans hh' hid

/-- The kinds and numbers of the accounts of a table that a user reaches. -/
def places (b : Bank) (user : Int) (type : AccountType) (accounts : List AccountRow) :
    List (Int × Option Int) :=
  (b.reachedRows user accounts).map fun a => (type.number, some a.id)

/-- The places are those of the accounts that the user holds. -/
theorem mem_places {type : AccountType} {accounts : List AccountRow} {p : Int × Option Int} :
    p ∈ b.places user type accounts ↔ ∃ h, b.Holds user type accounts h ∧ place h = p := by
  simp only [places, List.mem_map, mem_reachedRows, holds_iff_reaches]
  constructor
  · rintro ⟨a, ⟨ha, c, o, hreach⟩, rfl⟩
    exact ⟨a.handle type c o, ⟨a, ha, c, o, hreach, rfl⟩, rfl⟩
  · rintro ⟨_, ⟨a, ha, c, o, hreach, rfl⟩, rfl⟩
    exact ⟨a, ⟨ha, c, o, hreach⟩, rfl⟩

/-- Unique ids make the places distinct. -/
theorem nodup_places {type : AccountType} {accounts : List AccountRow}
    (hn : (accounts.map (·.id)).Nodup) : (b.places user type accounts).Nodup := by
  have hids : ((b.reachedRows user accounts).map (·.id)).Nodup :=
    hn.sublist (List.filter_sublist.map _)
  have hmap : b.places user type accounts =
      ((b.reachedRows user accounts).map (·.id)).map fun i => (type.number, some i) := by
    rw [places, List.map_map]
    rfl
  rw [hmap]
  refine hids.map fun i j hij => ?_
  exact Option.some_inj.1 (Prod.mk.inj hij).2

/-- What is owned is in a set of the accounts owned, with all that is displayed. -/
theorem mem_of_isSetOf (hb : b.UniqueIds) {hs : List AccountHandle}
    (h : AccountHandle.IsSetOf hs (b.Owns user)) {a : AccountHandle} (ha : b.Owns user a) :
    a ∈ hs := by
  obtain ⟨a', ha', hkey⟩ := h.complete a ha
  rwa [ha.eq_of_place hb (h.sound a' ha') (place_of_key hkey)]

/-- A user owns as many accounts as rows are reached. -/
theorem length_of_isSetOf (hb : b.UniqueIds) {hs : List AccountHandle}
    (h : AccountHandle.IsSetOf hs (b.Owns user)) :
    hs.length = (b.reachedRows user b.savings).length + (b.reachedRows user b.loans).length := by
  have hnodup : (hs.map place).Nodup := by
    refine List.pairwise_map.2 (h.once.imp_of_mem fun {a a'} ha ha' hkey hplace => hkey ?_)
    rw [(h.sound a ha).eq_of_place hb (h.sound a' ha') hplace]
  have hnodup' : (b.places user .savings b.savings ++ b.places user .loan b.loans).Nodup := by
    refine List.nodup_append.2 ⟨nodup_places hb.savings, nodup_places hb.loans, ?_⟩
    intro p hp q hq hpq
    obtain ⟨a, -, rfl⟩ := List.mem_map.1 hp
    obtain ⟨a', -, rfl⟩ := List.mem_map.1 hq
    cases hpq
  have hmem : ∀ p, p ∈ hs.map place ↔
      p ∈ b.places user .savings b.savings ++ b.places user .loan b.loans := by
    intro p
    rw [List.mem_map, List.mem_append, mem_places, mem_places]
    constructor
    · rintro ⟨a, ha, rfl⟩
      exact (h.sound a ha).imp (fun hh => ⟨a, hh, rfl⟩) fun hh => ⟨a, hh, rfl⟩
    · rintro (⟨a, hh, rfl⟩ | ⟨a, hh, rfl⟩)
      · exact ⟨a, mem_of_isSetOf hb h (.inl hh), rfl⟩
      · exact ⟨a, mem_of_isSetOf hb h (.inr hh), rfl⟩
  have hlength := ((List.perm_ext_iff_of_nodup hnodup hnodup').2 hmem).length_eq
  simpa [places] using hlength

/-- The accounts of a set of those owned, by their keys. -/
theorem mem_keys_of_isSetOf {hs : List AccountHandle}
    (h : AccountHandle.IsSetOf hs (b.Owns user)) {k : Int × Option Int × Option Int × Option Int} :
    k ∈ hs.map (·.key) ↔
      (∃ a ∈ b.savings, ∃ c o, b.Reaches user a c o ∧ k = (2, some a.id, some c.id, some o.id)) ∨
      ∃ a ∈ b.loans, ∃ c o, b.Reaches user a c o ∧ k = (1, some a.id, some c.id, some o.id) := by
  have howned : k ∈ hs.map (·.key) ↔ ∃ a, b.Owns user a ∧ a.key = k := by
    rw [List.mem_map]
    constructor
    · rintro ⟨a, ha, hk⟩
      exact ⟨a, h.sound a ha, hk⟩
    · rintro ⟨a, ha, hk⟩
      obtain ⟨a', ha', hkey⟩ := h.complete a ha
      exact ⟨a', ha', hkey.symm.trans hk⟩
  rw [howned]
  simp only [Owns, holds_iff_reaches]
  constructor
  · rintro ⟨_, ⟨a, ha, c, o, hreach, rfl⟩ | ⟨a, ha, c, o, hreach, rfl⟩, rfl⟩
    · exact .inl ⟨a, ha, c, o, hreach, rfl⟩
    · exact .inr ⟨a, ha, c, o, hreach, rfl⟩
  · rintro (⟨a, ha, c, o, hreach, rfl⟩ | ⟨a, ha, c, o, hreach, rfl⟩)
    · exact ⟨_, .inl ⟨a, ha, c, o, hreach, rfl⟩, rfl⟩
    · exact ⟨_, .inr ⟨a, ha, c, o, hreach, rfl⟩, rfl⟩

end Bank

/-! ## Mapping rows make no difference -/

namespace AccountHandle

variable {hs hs' : List AccountHandle}

/-- A handle is kept if no handle of its account is; the handles that are kept of a list are the
distinct ones. -/
def keep (seen : List AccountHandle) (h : AccountHandle) : List AccountHandle :=
  if h.isIn seen then seen else seen ++ [h]

/-- A handle that was kept is not kept again. -/
theorem keep_keep (seen : List AccountHandle) (h : AccountHandle) :
    keep (keep seen h) h = keep seen h := by
  have hin : h.isIn (keep seen h) = true := by
    unfold keep
    split
    · assumption
    · exact isIn_of_mem (List.mem_append_right _ List.mem_cons_self)
  rw [keep, if_pos hin]

/-- Of two lists the same is kept, whatever was kept before. -/
def KeptAlike (hs hs' : List AccountHandle) : Prop :=
  ∀ seen, hs.foldl keep seen = hs'.foldl keep seen

/-- Lists that are kept alike have the same distinct handles. -/
theorem KeptAlike.distinct_eq (h : KeptAlike hs hs') : distinct hs = distinct hs' := h []

/-- Lists that are kept alike, one behind the other, are kept alike … -/
theorem KeptAlike.append {hs₁ hs₂ hs₁' hs₂' : List AccountHandle} (h₁ : KeptAlike hs₁ hs₁')
    (h₂ : KeptAlike hs₂ hs₂') : KeptAlike (hs₁ ++ hs₂) (hs₁' ++ hs₂') := by
  intro seen
  rw [List.foldl_append, List.foldl_append, h₁, h₂]

/-- … and so are any number of them. -/
theorem KeptAlike.flatMap {α : Type} {f g : α → List AccountHandle} (l : List α)
    (h : ∀ a ∈ l, KeptAlike (f a) (g a)) : KeptAlike (l.flatMap f) (l.flatMap g) := by
  induction l with
  | nil => exact fun _ => rfl
  | cons a l ih =>
    rw [List.flatMap_cons, List.flatMap_cons]
    exact (h a List.mem_cons_self).append (ih fun a' ha' => h a' (List.mem_cons_of_mem _ ha'))

/-- Of many entries for one handle, one is kept. -/
theorem keptAlike_map_const {α : Type} (a : α) (l : List α) (h : AccountHandle) :
    KeptAlike ((a :: l).map fun _ => h) [h] := by
  intro seen
  induction l with
  | nil => rfl
  | cons a' l ih => simpa [keep_keep] using ih

/-- How many entries there are for a handle makes no difference, only whether there is one. -/
theorem keptAlike_map_of_iff {α : Type} {l l' : List α} (h : AccountHandle)
    (hl : (∃ a, a ∈ l) ↔ ∃ a, a ∈ l') : KeptAlike (l.map fun _ => h) (l'.map fun _ => h) := by
  rcases l with _ | ⟨a, l⟩ <;> rcases l' with _ | ⟨a', l'⟩
  · exact fun _ => rfl
  · obtain ⟨_, hm⟩ := hl.2 ⟨a', List.mem_cons_self⟩
    cases hm
  · obtain ⟨_, hm⟩ := hl.1 ⟨a, List.mem_cons_self⟩
    cases hm
  · intro seen
    rw [keptAlike_map_const, keptAlike_map_const]

end AccountHandle

/-- A bank with another table of mappings. -/
def Bank.withMappings (b : Bank) (ms : List ClientMapping) : Bank := { b with mappings := ms }

/-- The entries for the accounts of a table come to the same accounts, whichever mappings lead to
them. -/
theorem Bank.keptAlike_ownedOf {b : Bank} {user : Int} {ms : List ClientMapping}
    (h : ∀ client, (b.withMappings ms).Maps user client ↔ b.Maps user client) (type : AccountType)
    (accounts : List AccountRow) :
    AccountHandle.KeptAlike ((b.withMappings ms).ownedOf type accounts user)
      (b.ownedOf type accounts user) := by
  refine .flatMap _ fun a _ => .flatMap _ fun c _ => .flatMap _ fun o _ =>
    AccountHandle.keptAlike_map_of_iff _ ?_
  have hrows : ∀ rows : List ClientMapping,
      (∃ m, m ∈ rows.filter fun m => m.userId == some user && m.clientId == some c.id) ↔
        ∃ m ∈ rows, m.userId = some user ∧ m.clientId = some c.id := by
    intro rows
    simp
  rw [hrows, hrows]
  exact h c.id

namespace Template

variable {s : Store} {user : User}

/-- A user's own accounts depend on which clients the user is mapped to, and on nothing else of the
mappings. -/
theorem selfAccounts_congr {ms : List ClientMapping}
    (h : ∀ client, (s.bank.withMappings ms).Maps user.id client ↔ s.bank.Maps user.id client) :
    selfAccounts { s with bank := s.bank.withMappings ms } user = selfAccounts s user := by
  cases hu : fitsColumn user.id with
  | false => rw [selfAccounts_of_not_fits hu, selfAccounts_of_not_fits hu]
  | true =>
    have hkept := (Bank.keptAlike_ownedOf h .savings s.bank.savings).append
      (Bank.keptAlike_ownedOf h .loan s.bank.loans)
    simp only [selfAccounts, Bank.ownedAccounts, column_of_fits hu]
    exact congrArg Except.ok hkept.distinct_eq

/-! ## The only account -/

/-- There is a source of a transfer exactly if there is one account, and otherwise it is said
whether there is none or how many there are. -/
theorem sourceAccount_iff {hs : List AccountHandle} (h : selfAccounts s user = .ok hs) :
    (∀ source, sourceAccount s user = .ok source ↔ hs = [source]) ∧
    (sourceAccount s user = .error (.refusal .noOwnedAccount) ↔ hs = []) ∧
    ∀ n, sourceAccount s user = .error (.refusal (.multipleOwnedAccounts n)) ↔
      2 ≤ hs.length ∧ n = hs.length := by
  have hsource : sourceAccount s user = (single hs).mapError .refusal := by
    rw [sourceAccount, h]
    rfl
  rw [hsource]
  rcases hs with _ | ⟨_, _ | ⟨_, _⟩⟩
  · simp [single, Except.mapError]
  · simp [single, Except.mapError]
  · simp [single, Except.mapError, eq_comm]

/-- A user's own accounts are the active accounts that the user reaches, each counted once. The user
transfers from the only one of them, and is told if there is none or how many there are. How the
user is mapped to a client, and how often, makes no difference. -/
theorem owned_accounts_counted (hb : s.bank.UniqueIds) (user : User) :
    (fitsColumn user.id = true → ∃ hs, selfAccounts s user = .ok hs ∧
      (hs.map (·.key)).Nodup ∧
      (∀ k, k ∈ hs.map (·.key) ↔
        (∃ a ∈ s.bank.savings, ∃ c o, s.bank.Reaches user.id a c o ∧
          k = (2, some a.id, some c.id, some o.id)) ∨
        ∃ a ∈ s.bank.loans, ∃ c o, s.bank.Reaches user.id a c o ∧
          k = (1, some a.id, some c.id, some o.id)) ∧
      hs.length = (s.bank.reachedRows user.id s.bank.savings).length +
        (s.bank.reachedRows user.id s.bank.loans).length ∧
      (∀ source, sourceAccount s user = .ok source ↔ hs = [source]) ∧
      (sourceAccount s user = .error (.refusal .noOwnedAccount) ↔ hs = []) ∧
      ∀ n, sourceAccount s user = .error (.refusal (.multipleOwnedAccounts n)) ↔
        2 ≤ hs.length ∧ n = hs.length) ∧
    (fitsColumn user.id = false → selfAccounts s user = .error .integerTooWide ∧
      sourceAccount s user = .error (.breakdown .integerTooWide)) ∧
    ∀ ms, (∀ client, (s.bank.withMappings ms).Maps user.id client ↔ s.bank.Maps user.id client) →
      selfAccounts { s with bank := s.bank.withMappings ms } user = selfAccounts s user ∧
      sourceAccount { s with bank := s.bank.withMappings ms } user = sourceAccount s user := by
  refine ⟨fun hu => ?_, fun hu => ⟨selfAccounts_of_not_fits hu, sourceAccount_of_not_fits hu⟩,
    fun ms hms => ?_⟩
  · obtain ⟨hs, hself, hset⟩ := selfAccounts_eq (s := s) hu
    exact ⟨hs, hself, hset.nodup_keys, fun k => Bank.mem_keys_of_isSetOf hset,
      Bank.length_of_isSetOf hb hset, sourceAccount_iff hself⟩
  · have hself := selfAccounts_congr hms
    exact ⟨hself, by rw [sourceAccount, sourceAccount, hself]⟩

end Template

/-- A bank whose only client has a savings account and a loan of the same number and two mappings of
one user. -/
def Bank.paired : Bank where
  offices := [⟨1, some "Main"⟩]
  clients := [⟨2, some 1, some "Ann"⟩]
  mappings := [⟨1, some 7, some 2⟩, ⟨2, some 7, some 2⟩]
  savings := [⟨20, some "B1", some 2, some 300⟩]
  loans := [⟨20, some "B1", some 2, some 300⟩]

/-- The ids in the bank of the example are unique. -/
theorem Bank.uniqueIds_paired : Bank.paired.UniqueIds where
  offices := by decide
  clients := by decide
  savings := by decide
  loans := by decide

namespace Template

/-- Four ways lead to two accounts. -/
theorem owned_accounts_paired :
    Bank.paired.UniqueIds ∧ fitsColumn 7 = true ∧
    sourceAccount ⟨[], .paired⟩ ⟨7, []⟩ = .error (.refusal (.multipleOwnedAccounts 2)) := by
  refine ⟨Bank.uniqueIds_paired, by decide, ?_⟩
  obtain ⟨hs, -, -, -, hlength, -, -, hseveral⟩ :=
    (owned_accounts_counted (s := ⟨[], .paired⟩) Bank.uniqueIds_paired ⟨7, []⟩).1 (by decide)
  have htwo : hs.length = 2 := hlength.trans (by decide)
  exact (hseveral 2).2 ⟨by omega, by omega⟩

/-- A user whose number fits no column owns nothing, and is not told so. -/
theorem wide_user_not_counted :
    (∀ h, ¬ (Store.mk [] {}).bank.Owns 9223372036854775808 h) ∧
    sourceAccount ⟨[], {}⟩ ⟨9223372036854775808, []⟩ ≠ .error (.refusal .noOwnedAccount) := by
  refine ⟨fun h hh => ?_, ?_⟩
  · rcases hh with ⟨a, ha, -⟩ | ⟨a, ha, -⟩ <;> cases ha
  · rw [sourceAccount_of_not_fits (by decide)]
    nofun

end Template

end Remit
