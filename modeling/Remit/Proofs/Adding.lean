import Remit.Proofs.Columns
import Remit.Proofs.Store.Savings

/-!
# What adding a beneficiary comes to

Adding is decided by the request, the account and the name, in this order: an invalid request is
refused for its errors, an account that is not a savings account here, or is not known, for the
account, and a name that an active row of the user has for the name (`Registry.Adds`). Otherwise the
request is accepted (`Registry.Accepts`), and one row is added, with the next id, what was asked
for, and the account with its client and office.

The savings table is asked for one number at most, that of a valid request for a savings account
here (`Registry.consulted`): over a bank that gives the same answer to this question, adding takes
the same course (`Registry.sameOver_add`). Only a user whose number fits no column gets nothing
stored and no refusal (`Registry.add_wide_user`).

A text is a row of characters here: one with half of a surrogate pair in it, which no table can
hold, is not among the values of a request.
-/

namespace Remit

/-- The two codes of a request are null or texts. -/
def Fields.HasCodes (fields : Fields) : Prop :=
  ∀ name ∈ ["institutionCode", "currencyCode"],
    fields.get name = .null ∨ ∃ s, (fields.get name).text? = some s

/-- Null and texts are stored as they are. -/
theorem Cell.text_of_code {v : Value} (h : v = .null ∨ ∃ s, v.text? = some s) :
    Cell.text v = .ok v.text? := by
  rcases h with rfl | ⟨s, hs⟩
  · rfl
  · cases v <;> first | rfl | cases hs

/-! ## Resolving -/

namespace Resolvers

variable {b : NewBeneficiary}

/-- A request for this system's institution is resolved among its savings accounts … -/
theorem resolve_local (lookup : SavingsLookup) (hlocal : b.institutionName = "LOCAL") :
    Resolvers.default.resolve lookup b = b.resolveLocal lookup := by
  rw [resolve, InstitutionKind.ofName, if_pos hlocal]
  rfl

/-- … and looks up what it needs to know of them. -/
theorem lookups_local (hlocal : b.institutionName = "LOCAL") :
    Resolvers.default.lookups b = b.lookups := by
  rw [lookups, InstitutionKind.ofName, if_pos hlocal]
  rfl

/-- What is not a savings account here is not supported, and nothing is looked up for it. -/
theorem resolve_unsupported (lookup : SavingsLookup)
    (h : ¬ (b.institutionName = "LOCAL" ∧ b.accountType = .savings)) :
    Resolvers.default.resolve lookup b = .error (.refusal b.unsupported) ∧
      Resolvers.default.lookups b = [] := by
  by_cases hlocal : b.institutionName = "LOCAL"
  · have hloan : b.accountType = .loan := by
      cases htype : b.accountType with
      | loan => rfl
      | savings => exact absurd ⟨hlocal, htype⟩ h
    rw [resolve_local lookup hlocal, lookups_local hlocal, NewBeneficiary.resolveLocal,
      NewBeneficiary.lookups, hloan]
    exact ⟨rfl, rfl⟩
  · rw [resolve, lookups, InstitutionKind.ofName, if_neg hlocal]
    exact ⟨rfl, rfl⟩

/-- Only a savings account here is looked up, by its number. -/
theorem lookups_savings (hlocal : b.institutionName = "LOCAL")
    (hsavings : b.accountType = .savings) :
    Resolvers.default.lookups b = [b.accountNumber] := by
  rw [lookups_local hlocal, NewBeneficiary.lookups, hsavings]

/-- Resolving depends on the answers to its lookups only. -/
theorem resolve_congr {lookup lookup' : SavingsLookup}
    (h : ∀ number ∈ Resolvers.default.lookups b, lookup' number = lookup number) :
    Resolvers.default.resolve lookup' b = Resolvers.default.resolve lookup b := by
  by_cases hb : b.institutionName = "LOCAL" ∧ b.accountType = .savings
  · rw [lookups_savings hb.1 hb.2] at h
    rw [resolve_local _ hb.1, resolve_local _ hb.1, NewBeneficiary.resolveLocal,
      NewBeneficiary.resolveLocal, h _ (by simp)]
  · rw [(resolve_unsupported lookup' hb).1, (resolve_unsupported lookup hb).1]

end Resolvers

namespace Registry

variable {s : Store} {user : User} {fields : Fields}

/-- A savings account here is resolved if its number stands for an account with a client, and is
refused as unknown otherwise. -/
theorem resolve_savings (hids : s.bank.UniqueIds) {b : NewBeneficiary}
    (hlocal : b.institutionName = "LOCAL") (hsavings : b.accountType = .savings) :
    (∃ a c, s.bank.Resolves b.accountNumber a c ∧
      Resolvers.default.resolve (savingsLookup s) b =
        .ok (b.withAccount a.id c.id c.officeId)) ∨
    (∀ a c, ¬ s.bank.Resolves b.accountNumber a c) ∧
      Resolvers.default.resolve (savingsLookup s) b =
        .error (.refusal (.invalidAccount b.accountNumber b.accountType.code none)) := by
  rw [Resolvers.resolve_local _ hlocal, NewBeneficiary.resolveLocal, hsavings]
  simp only [savingsLookup]
  by_cases h : ∃ a c, s.bank.Resolves b.accountNumber a c
  · obtain ⟨a, c, hac⟩ := h
    rw [Bank.findSavings_of_resolves hids hac]
    exact .inl ⟨a, c, hac, rfl⟩
  · have hnone : ∀ a c, ¬ s.bank.Resolves b.accountNumber a c := fun a c hac => h ⟨a, c, hac⟩
    refine .inr ⟨hnone, ?_⟩
    rcases hfound : s.bank.findSavings b.accountNumber with _ | ⟨account, number, client, office⟩
    · rfl
    · cases client with
      | none => rfl
      | some client =>
        obtain ⟨a, hfirst, -, c, hc, hholds, -⟩ := Bank.isFirstOpen_of_findSavings hfound
        exact absurd ⟨hfirst, hc, hholds⟩ (hnone a c)

/-! ## What is asked of the bank -/

/-- The account numbers that adding looks up. -/
def consulted (user : User) (fields : Fields) : List String :=
  match Request.newBeneficiary user.id fields with
  | .ok b => Resolvers.default.lookups b
  | .error _ => []

end Registry

/-- A change takes the same course over two banks, whatever the rows are, and leaves either as it
is. -/
def Update.SameOver {α : Type} (bank bank' : Bank) (u : Update α) : Prop :=
  ∀ rows, ∃ act rows', u ⟨rows, bank⟩ = (act, ⟨rows', bank⟩) ∧
    u ⟨rows, bank'⟩ = (act, ⟨rows', bank'⟩)

namespace Update

variable {α β : Type} {bank bank' : Bank}

/-- An act that reads no store does the same over any two banks. -/
theorem sameOver_ofAct (a : Act α) : (ofAct a).SameOver bank bank' :=
  fun rows => ⟨a, rows, rfl, rfl⟩

/-- Updates in turn do the same over two banks if each of them does. -/
theorem SameOver.bind {u : Update α} {f : α → Update β} (hu : u.SameOver bank bank')
    (hf : ∀ x, (f x).SameOver bank bank') : (u >>= f).SameOver bank bank' := by
  intro rows
  obtain ⟨⟨es, o⟩, rows', h, h'⟩ := hu rows
  cases o with
  | error e =>
    exact ⟨⟨es, .error e⟩, rows', by simp [Bind.bind, andThen, h], by simp [Bind.bind, andThen, h']⟩
  | ok x =>
    obtain ⟨act, rows'', hx, hx'⟩ := hf x rows'
    exact ⟨⟨es ++ act.events, act.outcome⟩, rows'', by simp [Bind.bind, andThen, h, hx],
      by simp [Bind.bind, andThen, h', hx']⟩

/-- An insertion does not look into the bank. -/
theorem sameOver_insert (d : Draft) : (Store.insert d).SameOver bank bank' := by
  intro rows
  have hrow : (⟨rows, bank'⟩ : Store).rowOf d = (⟨rows, bank⟩ : Store).rowOf d := rfl
  have hcheck : (⟨rows, bank'⟩ : Store).checkName = (⟨rows, bank⟩ : Store).checkName := rfl
  unfold Store.insert
  rw [hrow, hcheck]
  cases (⟨rows, bank⟩ : Store).rowOf d with
  | error e => exact ⟨_, rows, rfl, rfl⟩
  | ok row =>
    cases h : row.bind (⟨rows, bank⟩ : Store).checkName with
    | error v => simp only [h]; exact ⟨_, rows, rfl, rfl⟩
    | ok r => simp only [h]; exact ⟨_, rows ++ [r], rfl, rfl⟩

end Update

namespace Registry

variable {s : Store} {user : User} {fields : Fields}

/-- Over a bank that answers the same to what is asked, adding takes the same course. -/
theorem sameOver_add {bank bank' : Bank} (h : ∀ number ∈ consulted user fields,
    bank'.findSavings number = bank.findSavings number) :
    (add user fields).SameOver bank bank' := by
  unfold consulted at h
  unfold add
  cases hrequest : Request.newBeneficiary user.id fields with
  | error e => exact fun rows => ⟨_, rows, rfl, rfl⟩
  | ok b =>
    rw [hrequest] at h
    have hresolve : ∀ rows, Resolvers.default.resolve (savingsLookup ⟨rows, bank'⟩) b =
        Resolvers.default.resolve (savingsLookup ⟨rows, bank⟩) b := fun rows =>
      Resolvers.resolve_congr fun number hn => congrArg Except.ok (h number hn)
    have hasks : Update.SameOver bank bank' fun s =>
        (Act.lift (Resolvers.default.resolve (savingsLookup s) b), s) := fun rows =>
      ⟨_, rows, rfl, by simp only [hresolve]⟩
    have hrest := hasks.bind fun resolved => (Update.sameOver_insert resolved.draft).bind fun id =>
      (Update.sameOver_ofAct (Act.log .usage .info
        s!"User {user.id} added beneficiary {id} ({resolved.name})")).bind fun _ =>
          Update.sameOver_ofAct (pure id)
    exact fun rows => hrest rows

/-! ## Outcomes -/

/-- A request is accepted: it is valid, it is for a savings account here, its number stands for an
account with a client, and its name is free. -/
structure Accepts (s : Store) (user : User) (fields : Fields) (b : NewBeneficiary) (a : AccountRow)
    (c : Client) : Prop where
  request : Request.newBeneficiary user.id fields = .ok b
  institution : b.institutionName = "LOCAL"
  savings : b.accountType = .savings
  resolved : s.bank.Resolves b.accountNumber a c
  free : ∀ r ∈ s.beneficiaries, r.isActiveOf user.id = true → r.name ≠ b.name

/-- The row for an accepted request. -/
def newRow (id : Int) (user : User) (fields : Fields) (b : NewBeneficiary) (a : AccountRow)
    (c : Client) : BeneficiaryRow where
  id := id
  userId := user.id
  name := b.name
  accountName := b.accountName
  institutionName := b.institutionName
  institutionCode := (fields.get "institutionCode").text?
  currencyCode := (fields.get "currencyCode").text?
  accountNumber := b.accountNumber
  accountId := some a.id
  clientId := some c.id
  officeId := c.officeId
  accountType := 2
  transferLimit := b.transferLimit
  isActive := true

/-- What adding comes to, in the order in which it is decided. -/
inductive Adds (s : Store) (user : User) (fields : Fields) : Except Fault Int × Store → Prop where
  | invalid {errors : List ParameterError} :
      Request.newBeneficiary user.id fields = .error (.refusal (.invalidRequest errors)) →
      Adds s user fields (.error (.refusal (.invalidRequest errors)), s)
  | unsupported {b : NewBeneficiary} : Request.newBeneficiary user.id fields = .ok b →
      ¬ (b.institutionName = "LOCAL" ∧ b.accountType = .savings) →
      Adds s user fields (.error (.refusal (.invalidAccount b.accountNumber b.accountType.code
        (some "Account information not yet supported"))), s)
  | unknown {b : NewBeneficiary} : Request.newBeneficiary user.id fields = .ok b →
      b.institutionName = "LOCAL" → b.accountType = .savings →
      (∀ a c, ¬ s.bank.Resolves b.accountNumber a c) →
      Adds s user fields
        (.error (.refusal (.invalidAccount b.accountNumber b.accountType.code none)), s)
  | wide {b : NewBeneficiary} {a : AccountRow} {c : Client} :
      Request.newBeneficiary user.id fields = .ok b → b.institutionName = "LOCAL" →
      b.accountType = .savings → s.bank.Resolves b.accountNumber a c →
      fitsColumn user.id = false → Adds s user fields (.error (.breakdown .integerTooWide), s)
  | taken {b : NewBeneficiary} {a : AccountRow} {c : Client} {r : BeneficiaryRow} :
      Request.newBeneficiary user.id fields = .ok b → b.institutionName = "LOCAL" →
      b.accountType = .savings → s.bank.Resolves b.accountNumber a c →
      fitsColumn user.id = true → r ∈ s.beneficiaries → r.isActiveOf user.id = true →
      r.name = b.name → Adds s user fields (.error (.refusal (.duplicateName (.text b.name))), s)
  | added {b : NewBeneficiary} {a : AccountRow} {c : Client} {id : Int} :
      Accepts s user fields b a c → fitsColumn user.id = true →
      Request.ReadsNew user.id fields b → s.IsNextId id →
      Adds s user fields (.ok id, s.withRow (newRow id user fields b a c))

/-- What adding comes to for a user whose number fits a column, and whose request has nothing that
does not fit. -/
theorem adds_of_resolves {b : NewBeneficiary} {a : AccountRow} {c : Client}
    (hbank : s.bank.FitsColumns) (hcodes : fields.HasCodes) (hu : fitsColumn user.id = true)
    (hlimit : FitsNumber b.transferLimit) (hrequest : Request.newBeneficiary user.id fields = .ok b)
    (hreads : Request.ReadsNew user.id fields b) (hlocal : b.institutionName = "LOCAL")
    (hsavings : b.accountType = .savings) (hresolves : s.bank.Resolves b.accountNumber a c) :
    Adds s user fields ((Store.insert (b.withAccount a.id c.id c.officeId).draft).result s) := by
  obtain ⟨hclient, hoffice⟩ := hbank.clients c hresolves.mem
  have haccount := hbank.savings a hresolves.first.mem
  have hcode : ∀ name ∈ ["institutionCode", "currencyCode"],
      Cell.text (fields.get name) = .ok (fields.get name).text? := fun name hn =>
    Cell.text_of_code (hcodes name hn)
  have hrow : s.rowOf (b.withAccount a.id c.id c.officeId).draft =
      .ok (.ok (newRow s.nextId user fields b a c)) := by
    have hb : (b.withAccount a.id c.id c.officeId).row s.nextId
        (fields.get "institutionCode").text? (fields.get "currencyCode").text? =
          newRow s.nextId user fields b a c := by
      simp only [NewBeneficiary.row, NewBeneficiary.withAccount, newRow, hreads.user, hsavings]
      rfl
    rw [← hb]
    refine Store.rowOf_of_cells ?_ ?_ (hreads.user.symm ▸ hu)
      (fun i hi => Option.some_inj.1 hi ▸ haccount) (fun i hi => Option.some_inj.1 hi ▸ hclient)
      hoffice hlimit
    · exact hreads.institutionCode ▸ hcode _ (by simp)
    · exact hreads.currencyCode ▸ hcode _ (by simp)
  obtain ⟨hrefused, hadded⟩ := Store.insert_of_row hrow
  by_cases htaken : ∃ r ∈ s.beneficiaries, r.isActiveOf user.id = true ∧ r.name = b.name
  · rw [hrefused htaken]
    obtain ⟨r, hr, ha, hn⟩ := htaken
    exact .taken (b := b) hrequest hlocal hsavings hresolves hu hr ha hn
  · have hfree : ∀ r ∈ s.beneficiaries, r.isActiveOf user.id = true → r.name ≠ b.name :=
      fun r hr ha hn => htaken ⟨r, hr, ha, hn⟩
    rw [hadded hfree]
    exact .added ⟨hrequest, hlocal, hsavings, hresolves, hfree⟩ hu hreads s.isNextId_nextId

/-- Adding comes to one of its outcomes. -/
theorem adds_result_add (hids : s.bank.UniqueIds) (hbank : s.bank.FitsColumns)
    (hcodes : fields.HasCodes)
    (hlimit : ∀ b, Request.newBeneficiary user.id fields = .ok b → FitsNumber b.transferLimit) :
    Adds s user fields ((add user fields).result s) := by
  have hdecides := Request.newBeneficiaryForm_decides user.id fields
  rw [result_add]
  by_cases hrefused :
      ∃ errors, Request.newBeneficiary user.id fields = .error (.refusal (.invalidRequest errors))
  · obtain ⟨errors, he⟩ := hrefused
    rw [he]
    exact .invalid he
  · obtain ⟨b, hrequest, hreads⟩ := hdecides.read hrefused
    simp only [hrequest]
    by_cases hb : b.institutionName = "LOCAL" ∧ b.accountType = .savings
    · obtain ⟨hlocal, hsavings⟩ := hb
      rcases resolve_savings hids hlocal hsavings with ⟨a, c, hresolves, h⟩ | ⟨hnone, h⟩ <;> rw [h]
      · cases hu : fitsColumn user.id with
        | true =>
          exact adds_of_resolves hbank hcodes hu (hlimit b hrequest) hrequest hreads hlocal hsavings
            hresolves
        | false =>
          have hrow : s.rowOf (b.withAccount a.id c.id c.officeId).draft = .error .integerTooWide :=
            Store.rowOf_of_not_fits (hreads.user.symm ▸ hu)
          simp only [Store.result_insert, hrow]
          exact .wide hrequest hlocal hsavings hresolves hu
      · exact .unknown hrequest hlocal hsavings hnone
    · rw [(Resolvers.resolve_unsupported _ hb).1]
      exact .unsupported hrequest hb

/-- Something is added exactly if the outcome says so. -/
theorem Adds.ok_iff {o : Except Fault Int × Store} (h : Adds s user fields o) :
    (∃ id t, o = (.ok id, t)) ↔
      fitsColumn user.id = true ∧ ∃ b a c, Accepts s user fields b a c := by
  constructor
  · rintro ⟨id, t, rfl⟩
    cases h with
    | added haccepts hu _ _ => exact ⟨hu, _, _, _, haccepts⟩
  · rintro ⟨hu, b, a, c, haccepts⟩
    have hsame : ∀ b', Request.newBeneficiary user.id fields = .ok b' → b' = b := fun b' hb' =>
      Except.ok.inj (hb'.symm.trans haccepts.request)
    cases h with
    | invalid he => cases he.symm.trans haccepts.request
    | unsupported hb hno =>
      obtain rfl := hsame _ hb
      exact absurd ⟨haccepts.institution, haccepts.savings⟩ hno
    | unknown hb _ _ hno =>
      obtain rfl := hsame _ hb
      exact absurd haccepts.resolved (hno a c)
    | wide _ _ _ _ hwide => cases hu.symm.trans hwide
    | taken hb _ _ _ _ hr ha hn =>
      obtain rfl := hsame _ hb
      exact absurd hn (haccepts.free _ hr ha)
    | added _ _ _ _ => exact ⟨_, _, rfl⟩

/-- Adding is decided by the request, the account and the name, and asks for one number at most.
The texts of the request are rows of characters, without halves of surrogate pairs. -/
theorem add_decided (hids : s.bank.UniqueIds) (hbank : s.bank.FitsColumns)
    (hcodes : fields.HasCodes)
    (hlimit : ∀ b, Request.newBeneficiary user.id fields = .ok b →
      ∀ i, b.transferLimit = some i → i < 2 ^ 63) :
    Adds s user fields ((add user fields).result s) ∧
    ((∃ id t, (add user fields).result s = (.ok id, t)) ↔
      fitsColumn user.id = true ∧ ∃ b a c, Accepts s user fields b a c) ∧
    (∀ b, Request.newBeneficiary user.id fields = .ok b → b.institutionName = "LOCAL" →
      b.accountType = .savings → consulted user fields = [b.accountNumber]) ∧
    ((¬ ∃ b, Request.newBeneficiary user.id fields = .ok b ∧ b.institutionName = "LOCAL" ∧
      b.accountType = .savings) → consulted user fields = []) ∧
    ∀ bank', (∀ number ∈ consulted user fields,
      bank'.findSavings number = s.bank.findSavings number) →
      (add user fields).SameOver s.bank bank' := by
  have hfits : ∀ b, Request.newBeneficiary user.id fields = .ok b → FitsNumber b.transferLimit := by
    intro b hb i hi
    have hpos := (Request.isNewBeneficiary_of_ok hb).transferLimit i hi
    have hlt := hlimit b hb i hi
    unfold fitsColumn
    rw [Bool.and_eq_true, decide_eq_true_eq, decide_eq_true_eq]
    omega
  have hadds := adds_result_add hids hbank hcodes hfits
  refine ⟨hadds, hadds.ok_iff, ?_, ?_, fun _ h => sameOver_add h⟩
  · intro b hb hlocal hsavings
    rw [consulted, hb]
    exact Resolvers.lookups_savings hlocal hsavings
  · intro hno
    unfold consulted
    split
    · next b hb =>
      exact (Resolvers.resolve_unsupported (savingsLookup s) fun h => hno ⟨b, hb, h⟩).2
    · rfl

/-! ## A sample, and a user without a row -/

/-- The ids in the bank of the example are unique. -/
theorem uniqueIds_lone : Bank.lone.UniqueIds := ⟨by decide, by decide, by decide, by decide⟩

/-- The number of the example resolves to the only open savings account. -/
theorem resolves_lone :
    Bank.lone.Resolves "B1" ⟨20, some "B1", some 2, some 300⟩ ⟨2, some 1, some "Ann"⟩ where
  first := {
    mem := .head _
    numbered := rfl
    isOpen := ⟨300, rfl, by decide⟩
    lowest := by
      intro a ha _ _
      rw [List.mem_singleton.1 ha] }
  mem := .head _
  holds := rfl

/-- The request of the example has null for its codes. -/
theorem hasCodes_lone : (Fields.lone []).HasCodes := by
  intro name hn
  left
  rcases List.mem_pair.1 hn with rfl | rfl <;> rfl

/-- Any user may ask for the account under a name that is free. -/
theorem accepts_lone (user : Int) :
    Accepts ⟨[], .lone⟩ ⟨user, []⟩ (.lone []) { NewBeneficiary.lone .null none with userId := user }
      ⟨20, some "B1", some 2, some 300⟩ ⟨2, some 1, some "Ann"⟩ where
  request := by cbv
  institution := by rfl
  savings := by rfl
  resolved := resolves_lone
  free := by
    intro r hr
    cases hr

/-- An account of the bank is added for a user who has no row yet. -/
theorem add_decided_lone :
    Bank.lone.UniqueIds ∧ Bank.lone.FitsColumns ∧ (Fields.lone []).HasCodes ∧
    ∃ id t, (add ⟨7, []⟩ (.lone [])).result ⟨[], .lone⟩ = (.ok id, t) := by
  have haccepts := accepts_lone 7
  have hlimit : ∀ b, Request.newBeneficiary 7 (.lone []) = .ok b →
      ∀ i, b.transferLimit = some i → i < 2 ^ 63 := by
    intro b hb i hi
    cases haccepts.request.symm.trans hb
    cases hi
  obtain ⟨-, hok, -⟩ : Adds ⟨[], .lone⟩ ⟨7, []⟩ (.lone []) _ ∧ _ :=
    add_decided uniqueIds_lone Bank.fitsColumns_lone hasCodes_lone hlimit
  exact ⟨uniqueIds_lone, Bank.fitsColumns_lone, hasCodes_lone,
    hok.2 ⟨by decide, _, _, _, haccepts⟩⟩

/-- A user whose number fits no column may ask for an account that can be resolved, under a name
that is free, and gets neither a row nor a refusal. -/
theorem add_wide_user :
    (∃ b a c, Accepts ⟨[], .lone⟩ ⟨9223372036854775808, []⟩ (.lone []) b a c) ∧
    (add ⟨9223372036854775808, []⟩ (.lone [])).result ⟨[], .lone⟩ =
      (.error (.breakdown .integerTooWide), ⟨[], .lone⟩) := by
  have haccepts := accepts_lone 9223372036854775808
  refine ⟨⟨_, _, _, haccepts⟩, ?_⟩
  rw [result_add, haccepts.request]
  cbv

end Registry

end Remit
