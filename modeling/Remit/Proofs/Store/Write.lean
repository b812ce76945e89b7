import Remit.Proofs.Store.Rows
import Remit.Store.Write

/-!
# What a write does

Each write either leaves the store as it is or changes one row of it. `insert_cases` and
`saveChanges_cases` list all that can happen, `result_deactivate` says what does happen, and where
the values of a write fit their cells, its outcome is known: it is refused exactly for the name of
another active row (`result_insert`, `result_saveChanges`).
-/

namespace Remit

/-! ## The words of a refusal -/

/-- A word that stands in a list of characters occurs there. -/
theorem occursIn_of_infix {word text : List Char} (h : word <:+: text) :
    occursIn word text = true := by
  induction text with
  | nil => simp [occursIn, List.infix_nil.1 h]
  | cons c cs ih =>
    rw [occursIn, Bool.or_eq_true, List.isPrefixOf_iff_prefix]
    exact (List.infix_cons_iff.1 h).imp_right ih

/-- A word in capitals is mentioned by the small letters of a text. -/
theorem mentions_lower {word capitals text : String} (h : capitals.toList <:+: text.toList)
    (hw : capitals.toList.map Char.toLower = word.toList) :
    mentions word (String.ofList (text.toList.map Char.toLower)) = true := by
  rw [mentions, String.toList_ofList, ← hw]
  exact occursIn_of_infix (h.map _)

/-- How the store reports that a name is taken. -/
theorem Violation.cause_nameTaken : nameTaken.cause =
    "UNIQUE constraint failed: " ++ table ++ ".name, " ++ table ++ ".app_user_id, " ++ table ++
      ".is_active" := by
  unfold cause
  with_reducible_and_instances rfl

/-- The words about a taken name speak of a duplicate name. -/
theorem outcome_integrityRefusal_nameTaken (name : Value) :
    (integrityRefusal Violation.nameTaken.cause name).outcome = .ok (.duplicateName name) := by
  have hunique : "UNIQUE".toList <:+: Violation.nameTaken.cause.toList := by
    rw [Violation.cause_nameTaken]
    simp only [String.toList_append, List.append_assoc]
    exact .trans (by decide +kernel)
      (List.prefix_append "UNIQUE constraint failed: ".toList _).isInfix
  have hname : "name".toList <:+: Violation.nameTaken.cause.toList := by
    rw [Violation.cause_nameTaken]
    simp only [String.toList_append, List.append_assoc]
    rw [← List.append_assoc]
    exact .trans (by decide +kernel) (List.infix_append' _ ".name, ".toList _)
  have hmentions := mentions_lower hunique (by decide +kernel : _ = "unique".toList)
  have hmentions' := mentions_lower hname (by decide +kernel : _ = "name".toList)
  simp only [integrityRefusal, hmentions, hmentions', Bool.true_or, Bool.and_true, if_true]
  rfl

/-- A number in a column of numbers is stored as it is. -/
theorem Cell.int_int {i j : Int} (h : Cell.int (.int i) = .ok (some j)) : j = i := by
  cases hfits : fitsColumn i with
  | false =>
    rw [Cell.int, column_of_not_fits hfits] at h
    cases h
  | true =>
    rw [Cell.int, column_of_fits hfits] at h
    cases h
    rfl

/-- An optional number in a column of numbers is stored as it is, if it fits. -/
theorem Cell.int_ofInt? {o j : Option Int} (h : Cell.int (.ofInt? o) = .ok j) :
    j = o ∧ ∀ i, o = some i → fitsColumn i = true := by
  cases o with
  | none =>
    cases h
    exact ⟨rfl, nofun⟩
  | some i =>
    cases hfits : fitsColumn i with
    | false =>
      rw [Value.ofInt?, Cell.int, column_of_not_fits hfits] at h
      cases h
    | true =>
      rw [Value.ofInt?, Cell.int, column_of_fits hfits] at h
      cases h
      exact ⟨rfl, fun i' hi' => Option.some_inj.1 hi' ▸ hfits⟩

/-- An optional number that fits is put into a column of numbers. -/
theorem Cell.int_of_fits {o : Option Int} (h : ∀ i, o = some i → fitsColumn i = true) :
    Cell.int (.ofInt? o) = .ok o := by
  cases o with
  | none => rfl
  | some i =>
    rw [Value.ofInt?, Cell.int, column_of_fits (h i rfl)]
    rfl

/-- The row of a new beneficiary, its codes already in cells. -/
def NewBeneficiary.row (b : NewBeneficiary) (id : Int)
    (institutionCode currencyCode : Option String) :
    BeneficiaryRow where
  id := id
  userId := b.userId
  name := b.name
  accountName := b.accountName
  institutionName := b.institutionName
  institutionCode := institutionCode
  currencyCode := currencyCode
  accountNumber := b.accountNumber
  accountId := b.accountId
  clientId := b.clientId
  officeId := b.officeId
  accountType := b.accountType.number
  transferLimit := b.transferLimit

/-- The values of a draft fit their cells, and no required one is empty. -/
structure Draft.Fits (d : Draft) (user : Int) (name : String) : Prop where
  userId : Cell.int d.userId = .ok (some user)
  name : Cell.text d.name = .ok (some name)
  accountName : ∃ t, Cell.text d.accountName = .ok (some t)
  institutionName : ∃ t, Cell.text d.institutionName = .ok (some t)
  accountNumber : ∃ t, Cell.text d.accountNumber = .ok (some t)
  institutionCode : ∃ t, Cell.text d.institutionCode = .ok t
  currencyCode : ∃ t, Cell.text d.currencyCode = .ok t
  accountId : ∃ i, Cell.int d.accountId = .ok i
  clientId : ∃ i, Cell.int d.clientId = .ok i
  officeId : ∃ i, Cell.int d.officeId = .ok i
  accountType : fitsColumn d.accountType = true
  transferLimit : ∃ i, Cell.int d.transferLimit = .ok i

namespace Store

variable {s : Store} {r r' : BeneficiaryRow} {id : Int}

/-! ## Rows after a write -/

/-- A row may be in a store: no other active row of its user has its name. -/
def Admits (s : Store) (r : BeneficiaryRow) : Prop :=
  ∀ r' ∈ s.beneficiaries, r'.isActiveOf r.userId = true → r'.name = r.name → r'.id = r.id

/-- A row that was added is there, with those that were there before. -/
@[simp] theorem mem_withRow : r' ∈ (s.withRow r).beneficiaries ↔ r' ∈ s.beneficiaries ∨ r' = r := by
  simp [withRow]

/-- Changing the row of an id changes no other row. -/
@[simp] theorem mem_mapRow {f : BeneficiaryRow → BeneficiaryRow} :
    r' ∈ (s.mapRow id f).beneficiaries ↔
      ∃ r ∈ s.beneficiaries, (if r.id = id then f r else r) = r' := by
  simp [mapRow]

/-- The id of the next row: one in an empty table, one more than the largest otherwise. -/
def IsNextId (s : Store) (id : Int) : Prop :=
  s.beneficiaries = [] ∧ id = 1 ∨
    ∃ r ∈ s.beneficiaries, (∀ r' ∈ s.beneficiaries, r'.id ≤ r.id) ∧ id = r.id + 1

/-- The next id is one that is free, and above all others. -/
theorem isNextId_nextId (s : Store) : s.IsNextId s.nextId := by
  unfold nextId IsNextId
  split
  · next id hmax =>
    obtain ⟨hm, hle⟩ := List.max?_eq_some_iff.1 hmax
    obtain ⟨r, hr, rfl⟩ := List.mem_map.1 hm
    exact .inr ⟨r, hr, fun r' hr' => hle r'.id (List.mem_map_of_mem hr'), rfl⟩
  · next hnone => exact .inl ⟨List.map_eq_nil_iff.1 (List.max?_eq_none_iff.1 hnone), rfl⟩

/-- The next id is larger than those in use. -/
theorem lt_nextId (hr : r ∈ s.beneficiaries) : r.id < s.nextId := by
  rcases s.isNextId_nextId with ⟨hnil, -⟩ | ⟨r', -, hle, hid⟩
  · rw [hnil] at hr
    cases hr
  · have := hle r hr
    omega

/-- A taken name is that of another active row of the user. -/
theorem nameTaken_iff {user : Int} {name : String} : s.nameTaken id user name = true ↔
    ∃ r ∈ s.beneficiaries, r.id ≠ id ∧ r.isActiveOf user = true ∧ r.name = name := by
  simp [nameTaken, and_assoc]

/-- A row passes exactly if the store admits its name. -/
theorem checkName_eq_ok : s.checkName r = .ok r' ↔ s.Admits r ∧ r' = r := by
  unfold checkName Admits
  split
  · next h =>
    obtain ⟨t, ht, hid, ha, hn⟩ := nameTaken_iff.1 h
    exact ⟨nofun, fun hr => (hid (hr.1 t ht ha hn)).elim⟩
  · next h =>
    refine ⟨fun hr => ⟨fun t ht ha hn => ?_, by cases hr; rfl⟩, fun hr => by rw [hr.2]⟩
    by_contra hid
    exact h (nameTaken_iff.2 ⟨t, ht, hid, ha, hn⟩)

/-- A row that the store does not admit has a taken name. -/
theorem checkName_of_not_admits (h : ¬ s.Admits r) : s.checkName r = .error .nameTaken := by
  unfold checkName
  split
  · rfl
  · next ht => exact (h (checkName_eq_ok.1 (if_neg ht)).1).elim

/-- A taken name is refused as a duplicate. -/
theorem outcome_refuseViolation_nameTaken {α : Type} (name : Value) :
    (refuseViolation .nameTaken name : Act α).outcome =
      .error (.refusal (.duplicateName name)) := by
  rw [refuseViolation, Act.outcome_bind, outcome_integrityRefusal_nameTaken]
  rfl

/-- A broken constraint ends with a refusal. -/
theorem exists_outcome_refuseViolation (α : Type) (v : Violation) (name : Value) :
    ∃ r, (refuseViolation v name : Act α).outcome = .error (.refusal r) := by
  unfold refuseViolation integrityRefusal
  simp only
  split
  · exact ⟨_, rfl⟩
  · exact ⟨_, rfl⟩

/-! ## Adding a row -/

variable {d : Draft}

/-- A cell that may not be null is there exactly if it has a value. -/
theorem required_eq_ok {α : Type} {column : String} {o : Option α} {a : α} :
    required column o = .ok a ↔ o = some a := by
  cases o with
  | none => exact ⟨nofun, nofun⟩
  | some b => exact ⟨fun h => by cases h; rfl, fun h => by cases h; rfl⟩

/-- A draft becomes an active row of its user with the next id. -/
theorem rowOf_eq_ok (h : s.rowOf d = .ok (.ok r)) :
    r.id = s.nextId ∧ r.isActive = true ∧ Cell.int d.userId = .ok (some r.userId) := by
  simp only [rowOf, bind_eq_ok] at h
  obtain ⟨_, hu, _, -, _, -, _, -, _, -, _, -, _, -, _, -, _, -, _, -, _, -, _, -, h⟩ := h
  have h := Except.ok.inj h
  simp only [bind_eq_ok] at h
  obtain ⟨_, hu', _, -, _, -, _, -, _, -, h⟩ := h
  cases h
  exact ⟨rfl, rfl, required_eq_ok.1 hu' ▸ hu⟩

/-- A new beneficiary is stored as it is. -/
theorem rowOf_newBeneficiary {b : NewBeneficiary} (h : s.rowOf b.draft = .ok (.ok r)) :
    ∃ institutionCode currencyCode, r = b.row s.nextId institutionCode currencyCode ∧
      Cell.text b.institutionCode = .ok institutionCode ∧
      Cell.text b.currencyCode = .ok currencyCode ∧ fitsColumn b.userId = true ∧
      ∀ i, b.accountId = some i → fitsColumn i = true := by
  simp only [rowOf, bind_eq_ok] at h
  obtain ⟨user, huser, name, hname, accountName, haccountName, institutionName, hinstitutionName,
    code, hcode, currency, hcurrency, accountNumber, haccountNumber, account, haccount, client,
    hclient, office, hoffice, type, htype, limit, hlimit, h⟩ := h
  have h := Except.ok.inj h
  simp only [bind_eq_ok, required_eq_ok] at h
  obtain ⟨_, rfl, _, rfl, _, rfl, _, rfl, _, rfl, h⟩ := h
  cases hname
  cases haccountName
  cases hinstitutionName
  cases haccountNumber
  obtain ⟨hu, hfits⟩ := Cell.int_ofInt? (o := some b.userId) huser
  cases hu
  obtain ⟨rfl, hfits'⟩ := Cell.int_ofInt? haccount
  obtain ⟨rfl, -⟩ := Cell.int_ofInt? hclient
  obtain ⟨rfl, -⟩ := Cell.int_ofInt? hoffice
  obtain ⟨rfl, -⟩ := Cell.int_ofInt? hlimit
  have htype' : type = b.accountType.number := by
    unfold column at htype
    split at htype <;> cases htype
    rfl
  cases htype'
  cases h
  exact ⟨code, currency, rfl, hcode, hcurrency, hfits _ rfl, hfits'⟩

/-- A new beneficiary whose values fit their cells becomes a row. -/
theorem rowOf_of_cells {b : NewBeneficiary} {institutionCode currencyCode : Option String}
    (hinstitution : Cell.text b.institutionCode = .ok institutionCode)
    (hcurrency : Cell.text b.currencyCode = .ok currencyCode) (hu : fitsColumn b.userId = true)
    (haccount : ∀ i, b.accountId = some i → fitsColumn i = true)
    (hclient : ∀ i, b.clientId = some i → fitsColumn i = true)
    (hoffice : ∀ i, b.officeId = some i → fitsColumn i = true)
    (hlimit : ∀ i, b.transferLimit = some i → fitsColumn i = true) :
    s.rowOf b.draft = .ok (.ok (b.row s.nextId institutionCode currencyCode)) := by
  have hu' : Cell.int (.int b.userId) = .ok (some b.userId) :=
    Cell.int_of_fits (o := some b.userId) fun i hi => Option.some_inj.1 hi ▸ hu
  have htype : fitsColumn b.accountType.number = true := by cases b.accountType <;> rfl
  simp only [rowOf, NewBeneficiary.draft, hu', hinstitution, hcurrency, Cell.int_of_fits haccount,
    Cell.int_of_fits hclient, Cell.int_of_fits hoffice, Cell.int_of_fits hlimit,
    column_of_fits htype]
  rfl

/-- A user whose number does not fit gets no row. -/
theorem rowOf_of_not_fits {b : NewBeneficiary} (hu : fitsColumn b.userId = false) :
    s.rowOf b.draft = .error .integerTooWide := by
  have hu' : Cell.int (.int b.userId) = .error .integerTooWide := by
    rw [Cell.int, column_of_not_fits hu]
    rfl
  rw [rowOf, NewBeneficiary.draft, hu']
  rfl

/-- The row of a draft depends on the store only for its id. -/
theorem rowOf_eq_map (s t : Store) (d : Draft) :
    s.rowOf d = (fun row => (fun r => { r with id := s.nextId }) <$> row) <$> t.rowOf d := by
  simp only [rowOf, map_bind, map_pure]

/-- A draft whose values fit becomes a row. -/
theorem rowOf_of_fits {user : Int} {name : String} (h : d.Fits user name) :
    ∃ r, s.rowOf d = .ok (.ok r) ∧ r.userId = user ∧ r.name = name := by
  obtain ⟨accountName, haccountName⟩ := h.accountName
  obtain ⟨institutionName, hinstitutionName⟩ := h.institutionName
  obtain ⟨accountNumber, haccountNumber⟩ := h.accountNumber
  obtain ⟨institutionCode, hinstitutionCode⟩ := h.institutionCode
  obtain ⟨currencyCode, hcurrencyCode⟩ := h.currencyCode
  obtain ⟨accountId, haccountId⟩ := h.accountId
  obtain ⟨clientId, hclientId⟩ := h.clientId
  obtain ⟨officeId, hofficeId⟩ := h.officeId
  obtain ⟨transferLimit, htransferLimit⟩ := h.transferLimit
  refine ⟨{
    id := s.nextId
    accountType := d.accountType
    userId := user
    name, accountName, institutionName, institutionCode, currencyCode, accountNumber, accountId,
    clientId, officeId, transferLimit }, ?_, rfl, rfl⟩
  rw [rowOf, h.userId, h.name, haccountName, hinstitutionName, haccountNumber, hinstitutionCode,
    hcurrencyCode, haccountId, hclientId, hofficeId, column_of_fits h.accountType, htransferLimit]
  rfl

/-- A draft is added if its values fit and its name is free. -/
theorem result_insert (s : Store) (d : Draft) : (insert d).result s =
    match s.rowOf d with
    | .error b => (.error (.breakdown b), s)
    | .ok row =>
      match row.bind s.checkName with
      | .error v => ((refuseViolation v d.name : Act Int).outcome, s)
      | .ok r => (.ok r.id, s.withRow r) := by
  unfold Update.result insert
  cases s.rowOf d with
  | error b => rfl
  | ok row => simp only; cases row.bind s.checkName <;> rfl

/-- A draft fails, or a row that the store admits is added. -/
theorem insert_cases (s : Store) (d : Draft) :
    (∃ e, (insert d).result s = (.error e, s)) ∨
    ∃ r, r.id = s.nextId ∧ r.isActive = true ∧ s.Admits r ∧
      (insert d).result s = (.ok r.id, s.withRow r) := by
  rw [result_insert]
  split
  · exact .inl ⟨_, rfl⟩
  · next row hrow =>
    split
    · next v _ =>
      obtain ⟨r, hr⟩ := exists_outcome_refuseViolation Int v d.name
      exact .inl ⟨_, by rw [hr]⟩
    · next r hr =>
      obtain ⟨r', rfl, hcheck⟩ := bind_eq_ok.1 hr
      obtain ⟨hadmits, rfl⟩ := checkName_eq_ok.1 hcheck
      obtain ⟨hid, hactive, -⟩ := rowOf_eq_ok hrow
      exact .inr ⟨r, hid, hactive, hadmits, rfl⟩

/-- Only the row of a draft that the store admits is added. -/
theorem exists_row_of_insert {i : Int} {t : Store} (h : (insert d).result s = (.ok i, t)) :
    ∃ r, s.rowOf d = .ok (.ok r) ∧ s.Admits r ∧ r.id = i ∧ t = s.withRow r := by
  rw [result_insert] at h
  split at h
  · cases h
  · next row hrow =>
    split at h
    · next v _ =>
      obtain ⟨r, hr⟩ := exists_outcome_refuseViolation Int v d.name
      rw [hr] at h
      cases h
    · next r hr =>
      obtain ⟨r', rfl, hcheck⟩ := bind_eq_ok.1 hr
      obtain ⟨hadmits, rfl⟩ := checkName_eq_ok.1 hcheck
      cases h
      exact ⟨r, hrow, hadmits, rfl, rfl⟩

/-- A row is refused exactly for the name of an active row of its user. -/
theorem insert_of_row (h : s.rowOf d = .ok (.ok r)) :
    ((∃ r' ∈ s.beneficiaries, r'.isActiveOf r.userId = true ∧ r'.name = r.name) →
      (insert d).result s = (.error (.refusal (.duplicateName d.name)), s)) ∧
    ((∀ r' ∈ s.beneficiaries, r'.isActiveOf r.userId = true → r'.name ≠ r.name) →
      (insert d).result s = (.ok r.id, s.withRow r)) := by
  obtain ⟨hid, -⟩ := rowOf_eq_ok h
  have hbind : (Except.ok r : Except Violation _).bind s.checkName = s.checkName r := rfl
  rw [result_insert, h]
  simp only [hbind]
  constructor
  · rintro ⟨r', hm, ha, hn⟩
    have hcheck : s.checkName r = .error .nameTaken := by
      refine checkName_of_not_admits fun hadmits => ?_
      have := hadmits r' hm ha hn
      have := lt_nextId hm
      omega
    rw [hcheck]
    exact congrArg (·, s) (outcome_refuseViolation_nameTaken _)
  · intro hn
    rw [checkName_eq_ok.2 ⟨fun r' hm ha heq => (hn r' hm ha heq).elim, rfl⟩]

/-- A draft whose values fit is refused exactly for the name of an active row of the user. -/
theorem insert_of_fits {user : Int} {name : String} (h : d.Fits user name) :
    ((∃ r ∈ s.beneficiaries, r.isActiveOf user = true ∧ r.name = name) →
      (insert d).result s = (.error (.refusal (.duplicateName d.name)), s)) ∧
    ((∀ r ∈ s.beneficiaries, r.isActiveOf user = true → r.name ≠ name) →
      ∃ r, r.userId = user ∧ r.name = name ∧ (insert d).result s = (.ok r.id, s.withRow r)) := by
  obtain ⟨r, hrow, rfl, rfl⟩ := rowOf_of_fits (s := s) h
  obtain ⟨hrefused, hadded⟩ := insert_of_row hrow
  exact ⟨hrefused, fun hn => ⟨r, rfl, rfl, hadded hn⟩⟩

/-! ## Changing a row -/

/-- New cells make a row with a name and a limit, which must be free to have them while it is
active. -/
theorem Cells.write_eq (c : Cells) (s : Store) (r : BeneficiaryRow) :
    c.write s r = (c.name.elim (.ok r.name) (required "name")) >>= fun name =>
      if r.isActive = true then
        s.checkName { r with name, transferLimit := c.transferLimit.getD r.transferLimit }
      else .ok { r with name, transferLimit := c.transferLimit.getD r.transferLimit } := by
  unfold Cells.write
  cases c.name <;> rfl

/-- New cells touch only the name and the limit of a row. -/
theorem Cells.write_eq_ok {c : Cells} (h : c.write s r = .ok r') :
    (∃ name limit, r' = { r with name := name, transferLimit := limit }) ∧
      (r.isActive = true → s.Admits r') := by
  rw [write_eq] at h
  obtain ⟨name, -, h⟩ := bind_eq_ok.1 h
  split at h
  · obtain ⟨hadmits, rfl⟩ := checkName_eq_ok.1 h
    exact ⟨⟨_, _, rfl⟩, fun _ => hadmits⟩
  · next ha =>
    cases h
    exact ⟨⟨_, _, rfl⟩, fun hr => (ha hr).elim⟩

/-- A change takes the first row of an id and writes what its name lets pass. -/
theorem result_saveChanges (s : Store) (id : Int) (changes : Fields) :
    (saveChanges id changes).result s =
      match Cells.ofFields changes with
      | .error b => (.error (.breakdown b), s)
      | .ok cells =>
        if cells.isEmpty = true then (.ok (), s)
        else if fitsColumn id = false then (.error (.breakdown .integerTooWide), s)
        else
          match s.beneficiaries.find? (·.id == id) with
          | none => (.ok (), s)
          | some r =>
            match cells.write s r with
            | .error v => ((refuseViolation v (changes.get "name") : Act Unit).outcome, s)
            | .ok r => (.ok (), s.mapRow id fun _ => r) := by
  unfold Update.result saveChanges
  cases Cells.ofFields changes with
  | error b => rfl
  | ok cells =>
    simp only
    cases cells.isEmpty with
    | true => rfl
    | false =>
      cases hid : fitsColumn id with
      | false => rw [column_of_not_fits hid]; rfl
      | true =>
        rw [column_of_fits hid]
        simp only [Bool.false_eq_true, Bool.true_eq_false, if_false]
        cases s.beneficiaries.find? (·.id == id) with
        | none => rfl
        | some r => simp only; cases cells.write s r <;> rfl

/-- A change fails, leaves the store as it is, or writes a name and a limit into a row. -/
theorem saveChanges_cases (s : Store) (id : Int) (changes : Fields) :
    (∃ o, (saveChanges id changes).result s = (o, s)) ∨
    ∃ r ∈ s.beneficiaries, r.id = id ∧ ∃ name limit,
      (r.isActive = true → s.Admits { r with name := name, transferLimit := limit }) ∧
      (saveChanges id changes).result s =
        (.ok (), s.mapRow id fun _ => { r with name := name, transferLimit := limit }) := by
  rw [result_saveChanges]
  split
  · exact .inl ⟨_, rfl⟩
  split
  · exact .inl ⟨_, rfl⟩
  split
  · exact .inl ⟨_, rfl⟩
  split
  · exact .inl ⟨_, rfl⟩
  next r hr =>
  split
  · exact .inl ⟨_, rfl⟩
  · next r' hw =>
    obtain ⟨⟨name, limit, rfl⟩, hadmits⟩ := Cells.write_eq_ok hw
    have hid : r.id = id := by simpa using List.find?_some hr
    exact .inr ⟨r, List.mem_of_find?_eq_some hr, hid, name, limit, hadmits, rfl⟩

/-- Changing the row of an id changes the row that has it. -/
theorem mapRow_of_mem (hs : s.UniqueIds) (hr : r ∈ s.beneficiaries)
    (f : BeneficiaryRow → BeneficiaryRow) : s.mapRow r.id f = s.mapRow r.id fun _ => f r := by
  have hrows : ∀ r' ∈ s.beneficiaries,
      (if r'.id = r.id then f r' else r') = if r'.id = r.id then f r else r' := by
    intro r' hr'
    split
    · next hid => rw [eq_of_id_eq hs hr' hr hid]
    · rfl
  rw [mapRow, mapRow, List.map_congr_left hrows]

/-- Writing a row where it stands changes nothing. -/
theorem mapRow_self (hs : s.UniqueIds) (hr : r ∈ s.beneficiaries) :
    (s.mapRow r.id fun _ => r) = s := by
  rw [← mapRow_of_mem hs hr fun r => r]
  simp [mapRow]

/-- A change of a row fails, or writes a name and a limit into it, maybe the old ones. -/
theorem saveChanges_of_mem (hs : s.UniqueIds) (hr : r ∈ s.beneficiaries) (changes : Fields) :
    (∃ e, (saveChanges r.id changes).result s = (.error e, s)) ∨ ∃ name limit,
      (saveChanges r.id changes).result s =
        (.ok (), s.mapRow r.id fun _ => { r with name := name, transferLimit := limit }) := by
  rcases saveChanges_cases s r.id changes with ⟨e | _, h⟩ | ⟨r', hr', hid, name, limit, -, h⟩
  · exact .inl ⟨e, h⟩
  · refine .inr ⟨r.name, r.transferLimit, h.trans ?_⟩
    rw [mapRow_self hs hr]
  · obtain rfl := eq_of_id_eq hs hr' hr hid
    exact .inr ⟨name, limit, h⟩

/-- A new name of an active row is refused exactly if another active row of the user has it. -/
theorem saveChanges_of_fits {changes : Fields} {name : String} {limit : Option (Option Int)}
    (hs : s.UniqueIds) (hr : r ∈ s.beneficiaries) (ha : r.isActive = true)
    (hid : fitsColumn r.id = true)
    (hcells : Cells.ofFields changes = .ok ⟨some (some name), limit⟩) :
    ((∃ r' ∈ s.beneficiaries, r'.id ≠ r.id ∧ r'.isActiveOf r.userId = true ∧ r'.name = name) →
      (saveChanges r.id changes).result s =
        (.error (.refusal (.duplicateName (changes.get "name"))), s)) ∧
    ((∀ r' ∈ s.beneficiaries, r'.id ≠ r.id → r'.isActiveOf r.userId = true → r'.name ≠ name) →
      (saveChanges r.id changes).result s = (.ok (), s.mapRow r.id fun _ =>
        { r with name := name, transferLimit := limit.getD r.transferLimit })) := by
  have hfind : s.beneficiaries.find? (·.id == r.id) = some r :=
    find?_eq_of_id hs hr (by simp) fun _ _ h => by simpa using h
  have hwrite : (⟨some (some name), limit⟩ : Cells).write s r =
      s.checkName { r with name := name, transferLimit := limit.getD r.transferLimit } := by
    rw [Cells.write_eq]
    exact if_pos ha
  rw [result_saveChanges, hcells]
  simp only [hid, hfind, hwrite]
  constructor
  · rintro ⟨r', hm, hne, ha', hn⟩
    have htaken : s.checkName { r with name := name, transferLimit := limit.getD r.transferLimit } =
        .error .nameTaken :=
      checkName_of_not_admits fun hadmits => hne (hadmits r' hm ha' hn)
    rw [htaken]
    exact congrArg (·, s) (outcome_refuseViolation_nameTaken _)
  · intro hn
    have hadmits :
        s.Admits { r with name := name, transferLimit := limit.getD r.transferLimit } := by
      intro r' hm ha' heq
      by_contra hne
      exact hn r' hm hne ha' heq
    rw [checkName_eq_ok.2 ⟨hadmits, rfl⟩]
    rfl

/-! ## Deactivating a row -/

/-- The row of an id, if there is one, becomes inactive. -/
theorem result_deactivate (h : fitsColumn id = true) :
    (deactivate id).result s = (.ok (), s.mapRow id fun r => { r with isActive := false }) := by
  unfold Update.result deactivate
  rw [column_of_fits h]
  rfl

/-- A row of an id that fits no column cannot be deactivated. -/
theorem result_deactivate_of_not_fits (h : fitsColumn id = false) :
    (deactivate id).result s = (.error (.breakdown .integerTooWide), s) := by
  unfold Update.result deactivate
  rw [column_of_not_fits h]
  rfl

end Store

end Remit
