import Remit.Proofs.Store.Provenance

/-!
# Requests and the columns of the table

A text column has a width, and a column of whole numbers holds 64 bits. What a request is read as is
`WithinColumns` if each of its values fits the column that it is stored in. The checks of a request
bound the names, the institution and the account number by the widths of their columns, but they
leave the two codes alone and put no upper bound on a limit: what is read is within the columns
exactly if the codes are null or short texts and the limit fits (`NewBeneficiary.withinColumns_iff`,
`BeneficiaryUpdate.withinColumns_iff`).

This guard is all that is missing. With it adding and changing never break down: they are refused,
or they store what was read, in a row within the columns (`Registry.add_of_withinColumns`,
`Registry.update_of_withinColumns`). Without it they may break down, or store a text that is too
long (`Registry.overlong_accepted`).

A column holds any text of its width, since a text is a row of characters here, without halves of
surrogate pairs.
-/

namespace Remit

/-! ## Values and columns -/

/-- A value fits a text column of a width, which may be empty. -/
def Value.FitsText (v : Value) (width : Nat) : Prop :=
  v = .null ∨ ∃ s, v.text? = some s ∧ s.length ≤ width

/-- An optional number fits a column of whole numbers. -/
def FitsNumber (o : Option Int) : Prop := ∀ i, o = some i → fitsColumn i = true

/-- A text that fits its column is stored as it is. -/
theorem Value.FitsText.cell {v : Value} {width : Nat} (h : v.FitsText width) :
    Cell.text v = .ok v.text? ∧ ∀ s, v.text? = some s → s.length ≤ width := by
  rcases h with rfl | ⟨s, hs, hlength⟩
  · exact ⟨rfl, nofun⟩
  · refine ⟨?_, fun s' hs' => Option.some_inj.1 (hs.symm.trans hs') ▸ hlength⟩
    cases v <;> first | rfl | cases hs

/-- What is read for a new beneficiary fits the columns that it is stored in. -/
structure NewBeneficiary.WithinColumns (b : NewBeneficiary) : Prop where
  name : b.name.length ≤ 50
  accountName : b.accountName.length ≤ 50
  institutionName : b.institutionName.length ≤ 50
  accountNumber : b.accountNumber.length ≤ 20
  institutionCode : b.institutionCode.FitsText 50
  currencyCode : b.currencyCode.FitsText 3
  transferLimit : FitsNumber b.transferLimit

/-- What is read for a change fits the columns that it is stored in. -/
structure Request.BeneficiaryUpdate.WithinColumns (u : BeneficiaryUpdate) : Prop where
  name : ∀ s, u.name = .given s → s.length ≤ 50
  transferLimit : u.Fits

/-- The cells of a row fit their columns. Its id is the store's own. -/
structure BeneficiaryRow.WithinColumns (r : BeneficiaryRow) : Prop where
  name : r.name.length ≤ 50
  accountName : r.accountName.length ≤ 50
  institutionName : r.institutionName.length ≤ 50
  accountNumber : r.accountNumber.length ≤ 20
  institutionCode : ∀ s, r.institutionCode = some s → s.length ≤ 50
  currencyCode : ∀ s, r.currencyCode = some s → s.length ≤ 3
  transferLimit : FitsNumber r.transferLimit
  userId : fitsColumn r.userId = true
  accountType : r.IsKnown
  accountId : FitsNumber r.accountId
  clientId : FitsNumber r.clientId
  officeId : FitsNumber r.officeId

/-- The ids of a bank's savings accounts, clients and offices fit into columns. -/
structure Bank.FitsColumns (b : Bank) : Prop where
  savings : ∀ a ∈ b.savings, fitsColumn a.id = true
  clients : ∀ c ∈ b.clients, fitsColumn c.id = true ∧ FitsNumber c.officeId

/-! ## What is read -/

section
variable {user : Int} {fields : Fields}

/-- A checked text is not longer than the column of its limit. -/
theorem Value.IsText.length_le_width {v : Value} {width : Nat} {s : String}
    (h : v.IsText width s) : s.length ≤ width :=
  Int.ofNat_le.1 h.length_le

/-- A new beneficiary that is read is within the columns exactly if its codes and its limit are. -/
theorem NewBeneficiary.withinColumns_iff {b : NewBeneficiary}
    (h : Request.newBeneficiary user fields = .ok b) :
    b.WithinColumns ↔ (fields.get "institutionCode").FitsText 50 ∧
      (fields.get "currencyCode").FitsText 3 ∧ FitsNumber b.transferLimit := by
  have hb := Request.isNewBeneficiary_of_ok h
  constructor
  · intro hw
    exact ⟨hb.institutionCode ▸ hw.institutionCode, hb.currencyCode ▸ hw.currencyCode,
      hw.transferLimit⟩
  · rintro ⟨hinstitution, hcurrency, hlimit⟩
    exact {
      name := hb.name.length_le_width
      accountName := hb.accountName.length_le_width
      institutionName := hb.institutionName.length_le_width
      accountNumber := hb.accountNumber.length_le_width
      institutionCode := hb.institutionCode ▸ hinstitution
      currencyCode := hb.currencyCode ▸ hcurrency
      transferLimit := hlimit }

/-- A change that is read is within the columns exactly if its limit is. -/
theorem Request.BeneficiaryUpdate.withinColumns_iff {u : BeneficiaryUpdate}
    (h : Request.beneficiaryUpdate fields = .ok u) : u.WithinColumns ↔ u.Fits :=
  ⟨fun hw => hw.transferLimit, fun hlimit =>
    ⟨fun s hs => ((Request.isBeneficiaryUpdate_of_ok h).name s hs).length_le_width, hlimit⟩⟩

end

/-! ## What is stored -/

/-- The fields of a change that differ from a row fit if all of them do. -/
theorem Request.BeneficiaryUpdate.Fits.differing {u : BeneficiaryUpdate} (h : u.Fits)
    (r : BeneficiaryRow) : (u.unlike r).Fits := by
  intro limit hlimit
  obtain ⟨name, _ | l⟩ := u
  · cases hlimit
  · refine h limit ?_
    simp only [Request.BeneficiaryUpdate.unlike, Supplied.unlike] at hlimit
    split at hlimit
    · cases hlimit
    · exact hlimit

/-- A row within the columns stays so with the fields of a change. -/
theorem BeneficiaryRow.WithinColumns.onto {r : BeneficiaryRow} (h : r.WithinColumns)
    {u : Request.BeneficiaryUpdate} (hu : u.WithinColumns) : (u.onto r).WithinColumns := by
  obtain ⟨name, limit⟩ := u
  refine { h with name := ?_, transferLimit := ?_ }
  · cases name with
    | absent => exact h.name
    | given s => exact hu.name s rfl
  · cases limit with
    | absent => exact h.transferLimit
    | given l => exact fun i hi => hu.transferLimit i (congrArg Supplied.given hi)

/-- What the bank knows of an account number fits into columns. -/
theorem Bank.FitsColumns.of_findSavings {b : Bank} (hb : b.FitsColumns) {number : String}
    {record : SavingsRecord} (h : b.findSavings number = some record) :
    fitsColumn record.accountId = true ∧ FitsNumber record.clientId ∧
      FitsNumber record.officeId := by
  obtain ⟨a, hhead, rfl⟩ := Option.map_eq_some_iff.1 h
  have ha := mem_byId.1 (List.mem_filter.1 (List.mem_of_mem_head? hhead)).1
  unfold Bank.savingsRecord
  split
  · next c hc =>
    obtain ⟨hid, hoffice⟩ := hb.clients c (List.mem_of_find?_eq_some hc)
    exact ⟨hb.savings a ha, fun i hi => Option.some_inj.1 hi ▸ hid, hoffice⟩
  · exact ⟨hb.savings a ha, nofun, nofun⟩

/-- A new beneficiary within the columns becomes a row within them. -/
theorem Store.rowOf_of_withinColumns {b : NewBeneficiary} (s : Store) (hb : b.WithinColumns)
    (hu : fitsColumn b.userId = true) (haccount : FitsNumber b.accountId)
    (hclient : FitsNumber b.clientId) (hoffice : FitsNumber b.officeId) :
    ∃ r, r = b.row s.nextId b.institutionCode.text? b.currencyCode.text? ∧ r.WithinColumns ∧
      s.rowOf b.draft = .ok (.ok r) := by
  obtain ⟨hinstitution, hshort⟩ := hb.institutionCode.cell
  obtain ⟨hcurrency, hshort'⟩ := hb.currencyCode.cell
  refine ⟨_, rfl, ?_, ?_⟩
  · exact {
      name := hb.name
      accountName := hb.accountName
      institutionName := hb.institutionName
      accountNumber := hb.accountNumber
      institutionCode := hshort
      currencyCode := hshort'
      transferLimit := hb.transferLimit
      userId := hu
      accountType := by
        show b.accountType.number = 1 ∨ b.accountType.number = 2
        cases b.accountType
        · exact .inl rfl
        · exact .inr rfl
      accountId := haccount
      clientId := hclient
      officeId := hoffice }
  · exact Store.rowOf_of_cells hinstitution hcurrency hu haccount hclient hoffice hb.transferLimit

/-- A resolution that fails is refused, as long as the lookup comes to an end. -/
theorem Resolvers.resolve_eq_error {lookup : SavingsLookup} {b : NewBeneficiary} {e : Fault}
    (hlookup : ∀ number, ∃ o, lookup number = .ok o)
    (h : Resolvers.default.resolve lookup b = .error e) : ∃ r, e = .refusal r := by
  unfold resolve at h
  split at h
  · unfold NewBeneficiary.resolveLocal at h
    split at h
    · cases h
      exact ⟨_, rfl⟩
    · obtain ⟨o, ho⟩ := hlookup b.accountNumber
      rw [ho] at h
      split at h
      · next he => cases he
      · cases h
      · cases h
        exact ⟨_, rfl⟩
  · cases h
    exact ⟨_, rfl⟩
  · cases h
    exact ⟨_, rfl⟩

namespace Registry

variable {s : Store} {user : User} {id : Int} {fields : Fields}

/-- A new beneficiary within the columns is refused, or stored as it was read. -/
theorem add_of_withinColumns {b : NewBeneficiary} (hu : fitsColumn user.id = true)
    (hbank : s.bank.FitsColumns) (h : Request.newBeneficiary user.id fields = .ok b)
    (hb : b.WithinColumns) :
    (∃ e, (add user fields).result s = (.error (.refusal e), s)) ∨
    ∃ account client office r, r = (b.withAccount account client office).row s.nextId
        b.institutionCode.text? b.currencyCode.text? ∧ r.WithinColumns ∧
      (add user fields).result s = (.ok r.id, s.withRow r) := by
  rw [result_add, h]
  simp only
  cases hresolved : Resolvers.default.resolve (savingsLookup s) b with
  | error e =>
    obtain ⟨r, rfl⟩ := Resolvers.resolve_eq_error (fun number => ⟨_, rfl⟩) hresolved
    exact .inl ⟨r, rfl⟩
  | ok resolved =>
    obtain ⟨-, -, account, number, client, office, hfound, rfl⟩ := Resolvers.resolve_eq_ok hresolved
    obtain ⟨haccount, hclient, hoffice⟩ := hbank.of_findSavings (Except.ok.inj hfound)
    have hw : (b.withAccount account client office).WithinColumns :=
      ⟨hb.name, hb.accountName, hb.institutionName, hb.accountNumber, hb.institutionCode,
        hb.currencyCode, hb.transferLimit⟩
    have huser : fitsColumn (b.withAccount account client office).userId = true :=
      (Request.isNewBeneficiary_of_ok h).user.symm ▸ hu
    obtain ⟨r, hr, hrw, hrow⟩ := s.rowOf_of_withinColumns hw huser
      (fun i hi => Option.some_inj.1 hi ▸ haccount) hclient hoffice
    obtain ⟨hrefused, hadded⟩ := Store.insert_of_row hrow
    simp only
    by_cases htaken : ∃ r' ∈ s.beneficiaries, r'.isActiveOf r.userId = true ∧ r'.name = r.name
    · exact .inl ⟨_, hrefused htaken⟩
    · refine .inr ⟨account, client, office, r, hr, hrw, hadded fun r' hr' ha hn => ?_⟩
      exact htaken ⟨r', hr', ha, hn⟩

/-- A change within the columns is refused, or written as it was read. -/
theorem update_of_withinColumns {u : Request.BeneficiaryUpdate} (hs : s.WellFormed)
    (hid : fitsColumn id = true) (h : Request.beneficiaryUpdate fields = .ok u)
    (hu : u.WithinColumns) :
    (∃ e, (update user id fields).result s = (.error (.refusal e), s)) ∨
    ∃ r ∈ s.beneficiaries, r.id = id ∧ (r.WithinColumns → (u.onto r).WithinColumns) ∧
      (update user id fields).result s =
        (.ok (u.unlike r).fields, s.mapRow id fun _ => u.onto r) := by
  rw [result_update, h]
  simp only
  by_cases hr : ∃ r ∈ s.beneficiaries, r.isActiveOf user.id = true ∧ r.id = id
  · obtain ⟨r, hr, ha, rfl⟩ := hr
    have hk := hs.types r hr
    simp only [result_ownedActive_of_mem hs.ids hr hk ha hid, requestedChanges_eq hk]
    cases hempty : (u.unlike r).fields.isEmpty with
    | true =>
      have hself : (s.mapRow r.id fun _ => u.onto r) = s := by
        rw [Request.BeneficiaryUpdate.onto_of_isEmpty hempty, Store.mapRow_self hs.ids hr]
      rw [if_pos rfl]
      exact .inr ⟨r, hr, rfl, fun hrw => hrw.onto hu, by rw [hself]⟩
    | false =>
      rw [if_neg Bool.false_ne_true]
      have hactive := (BeneficiaryRow.isActiveOf_iff.1 ha).1
      rcases Store.saveChanges_fields_of_fits hs.ids hr hactive hempty hid
        (hu.transferLimit.differing r) with ⟨-, e, hw⟩ | ⟨-, hw⟩ <;> rw [hw]
      · exact .inl ⟨e, rfl⟩
      · rw [Request.BeneficiaryUpdate.unlike_onto]
        exact .inr ⟨r, hr, rfl, fun hrw => hrw.onto hu, rfl⟩
  · rw [result_ownedActive_of_forall hs hid fun r hm ha heq => hr ⟨r, hm, ha, heq⟩]
    exact .inl ⟨_, rfl⟩

/-- What a request is read as is within the columns exactly if its codes are null or short texts and
its limit fits; then it is refused or stored as it was read, in a row within the columns. Texts
with half of a surrogate pair in them, which no column can hold, are not among the values. -/
theorem stays_within_columns (user : User) (fields : Fields) :
    (∀ b, Request.newBeneficiary user.id fields = .ok b →
      (b.WithinColumns ↔ (fields.get "institutionCode").FitsText 50 ∧
        (fields.get "currencyCode").FitsText 3 ∧ FitsNumber b.transferLimit) ∧
      (b.WithinColumns → ∀ s : Store, fitsColumn user.id = true → s.bank.FitsColumns →
        (∃ e, (add user fields).result s = (.error (.refusal e), s)) ∨
        ∃ account client office r, r = (b.withAccount account client office).row s.nextId
            b.institutionCode.text? b.currencyCode.text? ∧ r.WithinColumns ∧
          (add user fields).result s = (.ok r.id, s.withRow r))) ∧
    ∀ u, Request.beneficiaryUpdate fields = .ok u → (u.WithinColumns ↔ u.Fits) ∧
      (u.WithinColumns → ∀ (s : Store) id, s.WellFormed → fitsColumn id = true →
        (∃ e, (update user id fields).result s = (.error (.refusal e), s)) ∨
        ∃ r ∈ s.beneficiaries, r.id = id ∧ (r.WithinColumns → (u.onto r).WithinColumns) ∧
          (update user id fields).result s =
            (.ok (u.unlike r).fields, s.mapRow id fun _ => u.onto r)) := by
  constructor
  · intro b h
    exact ⟨NewBeneficiary.withinColumns_iff h,
      fun hb s hu hbank => add_of_withinColumns hu hbank h hb⟩
  · intro u h
    exact ⟨Request.BeneficiaryUpdate.withinColumns_iff h,
      fun hu s id hs hid => update_of_withinColumns hs hid h hu⟩

end Registry

/-! ## A sample, and what the guard is for -/

/-- A bank with one savings account. -/
def Bank.lone : Bank where
  offices := [⟨1, some "Main"⟩]
  clients := [⟨2, some 1, some "Ann"⟩]
  savings := [⟨20, some "B1", some 2, some 300⟩]

/-- The numbers in the bank of the example fit their columns. -/
theorem Bank.fitsColumns_lone : Bank.lone.FitsColumns where
  savings := by decide
  clients := by
    intro c hc
    obtain rfl := List.mem_singleton.1 hc
    exact ⟨by decide, fun i hi => Option.some_inj.1 hi ▸ by decide⟩

/-- A request to add this account, with further parameters. -/
def Fields.lone (extra : Fields) : Fields :=
  [("name", .text "Ann"), ("accountName", .text "Ann"), ("accountNumber", .text "B1"),
    ("accountType", .int 2), ("institutionName", .text "LOCAL")] ++ extra

/-- What such a request is read as. -/
def NewBeneficiary.lone (currencyCode : Value) (transferLimit : Option Int) : NewBeneficiary where
  userId := 7
  name := "Ann"
  accountName := "Ann"
  accountNumber := "B1"
  accountType := .savings
  institutionName := "LOCAL"
  currencyCode := currencyCode
  transferLimit := transferLimit

/-- The row of the account, with a currency. -/
def BeneficiaryRow.lone (currencyCode : String) : BeneficiaryRow where
  id := 1
  userId := 7
  name := "Ann"
  accountName := "Ann"
  institutionName := "LOCAL"
  currencyCode := some currencyCode
  accountNumber := "B1"
  accountId := some 20
  clientId := some 2
  officeId := some 1
  accountType := 2

/-- A currency is read whatever it is. -/
theorem Request.newBeneficiary_lone (currencyCode : Value) :
    Request.newBeneficiary 7 (.lone [("currencyCode", currencyCode)]) =
      .ok (.lone currencyCode none) := by
  cbv

/-- A change that differs from the row of the account is one write. -/
theorem Registry.result_update_lone {fields : Fields} {u : Request.BeneficiaryUpdate}
    (h : Request.beneficiaryUpdate fields = .ok u)
    (hne : (u.unlike (.lone "USD")).fields.isEmpty = false) :
    (update ⟨7, []⟩ 1 fields).result ⟨[.lone "USD"], .lone⟩ =
      (((Store.saveChanges 1 (u.unlike (.lone "USD")).fields).result ⟨[.lone "USD"], .lone⟩).1.map
        fun _ => (u.unlike (.lone "USD")).fields,
      ((Store.saveChanges 1 (u.unlike (.lone "USD")).fields).result ⟨[.lone "USD"], .lone⟩).2) := by
  have howned : (ownedActive ⟨7, []⟩ 1).result ⟨[.lone "USD"], .lone⟩ =
      (.ok (BeneficiaryRow.lone "USD").beneficiary, ⟨[.lone "USD"], .lone⟩) :=
    result_ownedActive_of_mem (r := .lone "USD") (by decide) (by decide) (by decide) (by decide)
      (by decide)
  rw [result_update, h]
  simp only [howned, requestedChanges_eq (r := .lone "USD") (by decide), hne]
  rfl

/-- A request with a code of three characters is stored as it was read. -/
theorem Registry.result_add_lone :
    (add ⟨7, []⟩ (.lone [("currencyCode", .text "USD")])).result ⟨[], .lone⟩ =
      (.ok 1, ⟨[.lone "USD"], .lone⟩) := by
  rw [result_add, Request.newBeneficiary_lone]
  cbv

/-- A currency of three letters is stored in a row within the columns, and so is a new name. -/
theorem Registry.lone_stays_within :
    (NewBeneficiary.lone (.text "USD") none).WithinColumns ∧
    (add ⟨7, []⟩ (.lone [("currencyCode", .text "USD")])).result ⟨[], .lone⟩ =
      (.ok 1, ⟨[.lone "USD"], .lone⟩) ∧
    (BeneficiaryRow.lone "USD").WithinColumns ∧
    (update ⟨7, []⟩ 1 [("name", .text "Anna")]).result ⟨[.lone "USD"], .lone⟩ =
      (.ok [("name", .text "Anna")], ⟨[{ BeneficiaryRow.lone "USD" with name := "Anna" }], .lone⟩) ∧
    ({ BeneficiaryRow.lone "USD" with name := "Anna" } : BeneficiaryRow).WithinColumns := by
  have hread := Request.newBeneficiary_lone (.text "USD")
  obtain ⟨hwithin, hadd⟩ :=
    (stays_within_columns ⟨7, []⟩ (.lone [("currencyCode", .text "USD")])).1 _ hread
  have hw : (NewBeneficiary.lone (.text "USD") none).WithinColumns :=
    hwithin.2 ⟨.inl rfl, .inr ⟨"USD", rfl, by decide⟩, fun _ hi => by cases hi⟩
  have hadded := result_add_lone
  have hrow : (BeneficiaryRow.lone "USD").WithinColumns := by
    rcases hadd hw ⟨[], .lone⟩ (by decide) Bank.fitsColumns_lone with
      ⟨e, he⟩ | ⟨_, _, _, r, -, hr, h⟩
    · cases hadded.symm.trans he
    · have hrows := congrArg (·.2.beneficiaries) (hadded.symm.trans h)
      obtain rfl : BeneficiaryRow.lone "USD" = r := (List.cons.inj hrows).1
      exact hr
  have hread' : Request.beneficiaryUpdate [("name", .text "Anna")] =
      .ok ⟨.given "Anna", .absent⟩ := by cbv
  have hupdated : (update ⟨7, []⟩ 1 [("name", .text "Anna")]).result ⟨[.lone "USD"], .lone⟩ =
      (.ok [("name", .text "Anna")],
        ⟨[{ BeneficiaryRow.lone "USD" with name := "Anna" }], .lone⟩) := by
    rw [result_update_lone hread' (by decide)]
    cbv
  obtain ⟨hwithin', hupdate⟩ :=
    (stays_within_columns ⟨7, []⟩ [("name", .text "Anna")]).2 _ hread'
  refine ⟨hw, hadded, hrow, hupdated, ?_⟩
  rcases hupdate (hwithin'.2 fun _ hi => by cases hi) ⟨[.lone "USD"], .lone⟩ 1
    ⟨by decide, by decide⟩ (by decide) with ⟨e, he⟩ | ⟨r, hr, -, hkept, -⟩
  · cases hupdated.symm.trans he
  · obtain rfl := List.mem_singleton.1 hr
    exact hkept hrow

/-- A currency of four letters is read, and stored as it is; a code that is a list is read, and so
is a limit beyond 64 bits, but storing them breaks down. -/
theorem Registry.overlong_accepted :
    (Request.newBeneficiary 7 (.lone [("currencyCode", .text "EURO")]) =
        .ok (.lone (.text "EURO") none) ∧
      ¬ (NewBeneficiary.lone (.text "EURO") none).WithinColumns ∧
      (add ⟨7, []⟩ (.lone [("currencyCode", .text "EURO")])).result ⟨[], .lone⟩ =
        (.ok 1, ⟨[.lone "EURO"], .lone⟩) ∧
      ¬ (BeneficiaryRow.lone "EURO").WithinColumns) ∧
    (Request.newBeneficiary 7 (.lone [("currencyCode", .list [])]) = .ok (.lone (.list []) none) ∧
      (add ⟨7, []⟩ (.lone [("currencyCode", .list [])])).result ⟨[], .lone⟩ =
        (.error (.breakdown .unstorable), ⟨[], .lone⟩)) ∧
    (Request.newBeneficiary 7 (.lone [("transferLimit", .int 9223372036854775808)]) =
        .ok (.lone .null (some 9223372036854775808)) ∧
      (add ⟨7, []⟩ (.lone [("transferLimit", .int 9223372036854775808)])).result ⟨[], .lone⟩ =
        (.error (.breakdown .integerTooWide), ⟨[], .lone⟩)) ∧
    Request.beneficiaryUpdate [("transferLimit", .int 9223372036854775808)] =
        .ok ⟨.absent, .given (some 9223372036854775808)⟩ ∧
      (update ⟨7, []⟩ 1 [("transferLimit", .int 9223372036854775808)]).result
          ⟨[.lone "USD"], .lone⟩ =
        (.error (.breakdown .integerTooWide), ⟨[.lone "USD"], .lone⟩) := by
  have hlimit : Request.newBeneficiary 7 (.lone [("transferLimit", .int 9223372036854775808)]) =
      .ok (.lone .null (some 9223372036854775808)) := by cbv
  have hchange : Request.beneficiaryUpdate [("transferLimit", .int 9223372036854775808)] =
      .ok ⟨.absent, .given (some 9223372036854775808)⟩ := by cbv
  refine ⟨⟨Request.newBeneficiary_lone _, fun h => ?_, ?_, fun h => ?_⟩,
    ⟨Request.newBeneficiary_lone _, ?_⟩, ⟨hlimit, ?_⟩, hchange, ?_⟩
  · rcases h.currencyCode with hnull | ⟨s, hs, hlength⟩
    · cases hnull
    · obtain rfl := Option.some_inj.1 hs
      exact absurd hlength (by decide)
  · rw [result_add, Request.newBeneficiary_lone]
    cbv
  · exact absurd (h.currencyCode "EURO" rfl) (by decide)
  · rw [result_add, Request.newBeneficiary_lone]
    cbv
  · rw [result_add, hlimit]
    cbv
  · rw [result_update_lone hchange (by decide)]
    cbv

end Remit
