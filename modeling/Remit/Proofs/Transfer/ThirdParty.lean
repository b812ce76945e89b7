import Mathlib
import Remit.Proofs.Request.Transfer
import Remit.Proofs.Transfer.Accounts
import Remit.Proofs.Transfer.Authorization

/-!
# Transfers to third parties

When a transfer to a third party is granted and why it is denied, in terms of the tables alone. A
`Proposal` is a readable request of a user with one account that names an active beneficiary; it is
`Payable` if it goes to another account and is above no limit on that account. `Granted` are the
instructions of payable proposals that the daily ceiling lets pass, and `Denied` has one constructor
for each reason to fail, in the order in which the reasons count.

In a store where nothing else changes, authorization decides exactly so
(`authorize_thirdParty_iff`): every grant and every denial has its outcome (`outcome_of_granted`,
`outcome_of_denied`), and there is no third case (`granted_or_denied`).
-/

namespace Remit

/-- The row that a number stands for: the lowest active one of a user that has this number and an
account of this system. -/
structure Store.IsTarget (s : Store) (user : Int) (number : String) (r : BeneficiaryRow) :
    Prop where
  mem : r ∈ s.beneficiaries
  active : r.isActiveOf user = true
  named : r.accountNumber = number
  resolved : r.accountId.isSome = true
  lowest : ∀ r' ∈ s.beneficiaries, r'.isActiveOf user = true → r'.accountNumber = number →
    r'.accountId.isSome = true → r.id ≤ r'.id

namespace ThirdParty

section
variable (s : Store) (user : User) (fields : Fields) (day : Date) (settings : LimitSettings)

/-- A request that can be read, of a user who owns one account, for the number of a row. -/
structure Proposal (source : AccountHandle) (target : BeneficiaryRow) (input : TransferInput) :
    Prop where
  request : Request.transferInput fields day = .ok input
  owned : AccountHandle.IsSetOf [source] (s.bank.Owns user.id)
  aimed : s.IsTarget user.id input.toAccountNumber target

/-- A proposal between two accounts whose amount is above no limit of the user on the second one. -/
structure Payable (source : AccountHandle) (target : BeneficiaryRow) (input : TransferInput) : Prop
    extends Proposal s user fields day source target input where
  distinct : source.key ≠ target.handle.key
  within : ∀ limit, s.IsLimit user.id target.accountId target.accountType limit →
    input.amount.val.value ≤ limit

/-- The instruction of a payable proposal that is not too much for the day. -/
inductive Granted : Instruction → Prop where
  | intro {source target input} (hp : Payable s user fields day source target input)
      (hd : settings.enabled = true → ∃ total,
        s.bank.total source.accountId source.accountType day = .ok total ∧
        exceedsDailyLimit input.amount (some total) settings = .ok false) :
      Granted (.between source target.handle input)

/-- The reasons to deny a transfer. Each one supposes that those before it do not apply. -/
inductive Denied : Fault → Prop where
  | request {errors}
      (hr : Request.transferInput fields day = .error (.refusal (.invalidRequest errors))) :
      Denied (.refusal (.invalidRequest errors))
  | wideUser {input} (hr : Request.transferInput fields day = .ok input)
      (hu : fitsColumn user.id = false) : Denied (.breakdown .integerTooWide)
  | noAccount {input} (hr : Request.transferInput fields day = .ok input)
      (hu : fitsColumn user.id = true) (ho : ∀ h, ¬ s.bank.Owns user.id h) :
      Denied (.refusal .noOwnedAccount)
  | severalAccounts {input hs} (hr : Request.transferInput fields day = .ok input)
      (ho : AccountHandle.IsSetOf hs (s.bank.Owns user.id)) (hl : 2 ≤ hs.length) :
      Denied (.refusal (.multipleOwnedAccounts hs.length))
  | unknownNumber {source input} (hr : Request.transferInput fields day = .ok input)
      (ho : AccountHandle.IsSetOf [source] (s.bank.Owns user.id))
      (hn : ∀ r ∈ s.beneficiaries, r.isActiveOf user.id = true →
        r.accountNumber ≠ input.toAccountNumber) :
      Denied (.refusal (.invalidDestination Authorization.notFoundReason))
  | external {source input r} (hr : Request.transferInput fields day = .ok input)
      (ho : AccountHandle.IsSetOf [source] (s.bank.Owns user.id))
      (hm : r ∈ s.beneficiaries) (ha : r.isActiveOf user.id = true)
      (hn : r.accountNumber = input.toAccountNumber)
      (hx : ∀ r ∈ s.beneficiaries, r.isActiveOf user.id = true →
        r.accountNumber = input.toAccountNumber → r.accountId.isSome = false) :
      Denied (.refusal (.invalidDestination Authorization.externalReason))
  | sameAccount {source target input} (hp : Proposal s user fields day source target input)
      (hk : source.key = target.handle.key) : Denied (.refusal .sameAccount)
  | aboveBeneficiaryLimit {source target input limit}
      (hp : Proposal s user fields day source target input) (hk : source.key ≠ target.handle.key)
      (hl : s.IsLimit user.id target.accountId target.accountType limit)
      (hleast : ∀ l, s.IsLimit user.id target.accountId target.accountType l → limit ≤ l)
      (ha : (limit : ℚ) < input.amount.val.value) :
      Denied (.refusal (.aboveBeneficiaryLimit (some limit)))
  | noTotal {source target input b} (hp : Payable s user fields day source target input)
      (he : settings.enabled = true)
      (ht : s.bank.total source.accountId source.accountType day = .error b) :
      Denied (.breakdown b)
  | undecided {source target input total e} (hp : Payable s user fields day source target input)
      (he : settings.enabled = true)
      (ht : s.bank.total source.accountId source.accountType day = .ok total)
      (hd : exceedsDailyLimit input.amount (some total) settings = .error e) :
      Denied (.breakdown (.ofSignal e))
  | aboveDailyLimit {source target input total}
      (hp : Payable s user fields day source target input) (he : settings.enabled = true)
      (ht : s.bank.total source.accountId source.accountType day = .ok total)
      (hd : exceedsDailyLimit input.amount (some total) settings = .ok true) :
      Denied (.refusal (.aboveDailyLimit source.accountId source.accountType (some day)))

end

variable {s : Store} {user : User} {fields : Fields} {day : Date} {settings : LimitSettings}
  {source : AccountHandle} {target : BeneficiaryRow} {input : TransferInput}

/-! ## The destination -/

/-- The row of a number is the first of the candidates that fits. -/
theorem find?_activeRows_iff (hs : s.WellFormed) {number : String} :
    (s.activeRows user.id).find? (fun r => r.accountNumber == number && r.accountId.isSome) =
      some target ↔ s.IsTarget user.id number target := by
  rw [Store.activeRows, find?_byId_eq_some_iff (hs.ids.filter _)]
  simp only [List.mem_filter, Bool.and_eq_true, beq_iff_eq]
  constructor
  · rintro ⟨⟨hm, ha⟩, ⟨hn, hr⟩, hl⟩
    exact ⟨hm, ha, hn, hr, fun r' hm' ha' hn' hr' => hl r' ⟨hm', ha'⟩ ⟨hn', hr'⟩⟩
  · rintro ⟨hm, ha, hn, hr, hl⟩
    exact ⟨⟨hm, ha⟩, ⟨hn, hr⟩, fun r' hm' hp => hl r' hm'.1 hm'.2 hp.1 hp.2⟩

/-- The account of the row of a number is the first of the candidates that fits. -/
theorem find?_candidates (hs : s.WellFormed) {number : String}
    (ht : s.IsTarget user.id number target) :
    ((s.activeRows user.id).map (·.handle)).find?
      (fun c => c.accountNumber == some number && c.isResolved) = some target.handle := by
  rw [List.find?_map]
  show (List.find? (fun r : BeneficiaryRow => some r.accountNumber == some number &&
    r.accountId.isSome) _).map _ = _
  simp only [Option.some_beq_some]
  rw [(find?_activeRows_iff hs).2 ht]
  rfl

/-- A candidate is the account of an active row. -/
theorem exists_of_mem_candidates {c : AccountHandle}
    (hc : c ∈ (s.activeRows user.id).map (·.handle)) :
    ∃ r ∈ s.beneficiaries, r.isActiveOf user.id = true ∧ r.handle = c := by
  obtain ⟨r, hr, rfl⟩ := List.mem_map.1 hc
  obtain ⟨hm, ha⟩ := Store.mem_activeRows.1 hr
  exact ⟨r, hm, ha, rfl⟩

/-- Among the active rows of a number, one with an account of this system is the target. -/
theorem exists_isTarget (hs : s.WellFormed) {number : String} {r : BeneficiaryRow}
    (hm : r ∈ s.beneficiaries) (ha : r.isActiveOf user.id = true) (hn : r.accountNumber = number)
    (hr : r.accountId.isSome = true) : ∃ target, s.IsTarget user.id number target := by
  obtain ⟨target, ht⟩ := Option.isSome_iff_exists.1 (List.find?_isSome.2
    ⟨r, Store.mem_activeRows.2 ⟨hm, ha⟩, by simp [hn, hr]⟩ :
      ((s.activeRows user.id).find? fun r => r.accountNumber == number && r.accountId.isSome).isSome
        = true)
  exact ⟨target, (find?_activeRows_iff hs).1 ht⟩

/-! ## One step after the other -/

/-- A user who owns an account has a number that fits a column. -/
theorem fitsColumn_of_owned (hf : s.FitsColumns)
    (ho : AccountHandle.IsSetOf [source] (s.bank.Owns user.id)) : fitsColumn user.id = true :=
  (ho.sound source List.mem_cons_self).fitsColumn hf

/-- For a user with one account, the number decides first. -/
theorem outcome_of_owned (settings : LimitSettings) (hs : s.WellFormed)
    (hu : fitsColumn user.id = true)
    (hr : Request.transferInput fields day = .ok input)
    (ho : AccountHandle.IsSetOf [source] (s.bank.Owns user.id)) :
    ∃ source', source'.key = source.key ∧ Template.selfAccounts s user = .ok [source'] ∧
      (authorize (.ofStore s user) user .tpt fields day settings).outcome =
        (Authorization.selectDestination ((s.activeRows user.id).map (·.handle))
          input.toAccountNumber).outcome >>= fun destination =>
        (Authorization.checkMembership (.ofStore s user) user .tpt source' destination).outcome >>=
          fun _ =>
        (Authorization.checkLimits (.ofStore s user) settings .tpt source' destination
          input).outcome >>= fun _ =>
        .ok (.between source' destination input) := by
  obtain ⟨source', hself, hsource, hkey⟩ := Template.sourceAccount_of_isSetOf hu ho
  refine ⟨source', hkey, hself, ?_⟩
  rw [outcome_authorize, hr]
  simp only [Facts.ofStore, hsource, Template.candidates, Template.beneficiaryAccounts_eq hs hu]
  rfl

/-- A handle counts only by what identifies its account: the ceilings of a source do not depend on
what is displayed. -/
theorem checkLimits_of_key {facts : Facts} {type : TransferType}
    {source' destination : AccountHandle} (h : source'.key = source.key) :
    Authorization.checkLimits facts settings type source' destination input =
      Authorization.checkLimits facts settings type source destination input := by
  simp only [AccountHandle.key, Prod.mk.injEq] at h
  obtain ⟨htype, hid, -, -⟩ := h
  simp only [Authorization.checkLimits, Authorization.checkDailyLimit, htype, hid]

/-- The instruction does not depend on what is displayed of its source either. -/
theorem between_of_key {source' destination : AccountHandle} (h : source'.key = source.key) :
    Instruction.between source' destination input = .between source destination input := by
  simp only [AccountHandle.key, Prod.mk.injEq] at h
  obtain ⟨htype, hid, hclient, hoffice⟩ := h
  simp only [Instruction.between, htype, hid, hclient, hoffice]

/-- A proposal is decided by its two ends and then by the ceilings. -/
theorem outcome_of_proposal (hs : s.WellFormed) (hf : s.FitsColumns)
    (hp : Proposal s user fields day source target input) :
    (authorize (.ofStore s user) user .tpt fields day settings).outcome =
      if source.key = target.handle.key then .error (.refusal .sameAccount)
      else (Authorization.checkLimits (.ofStore s user) settings .tpt source target.handle
        input).outcome >>= fun _ => .ok (.between source target.handle input) := by
  have hu := fitsColumn_of_owned hf hp.owned
  obtain ⟨source', hkey, hself, h⟩ := outcome_of_owned settings hs hu hp.request hp.owned
  obtain ⟨destinations, hdestinations, hiff⟩ := Template.thirdPartyDestinations_eq hs hu
  have hself' : (Facts.ofStore s user).selfAccounts = .ok [source'] :=
    congrArg (Except.mapError Fault.breakdown) hself
  have hdestinations' : (Facts.ofStore s user).destinations .tpt = .ok destinations :=
    congrArg (Except.mapError Fault.breakdown) hdestinations
  have hin : source'.isIn [source'] = true := AccountHandle.isIn_of_mem List.mem_cons_self
  have hto : target.handle.isIn destinations = true :=
    (hiff _).2 ⟨target, hp.aimed.mem, hp.aimed.active, hp.aimed.resolved, rfl⟩
  rw [h, Authorization.outcome_selectDestination_of_some (find?_candidates hs hp.aimed)]
  show (Authorization.checkMembership _ user .tpt source' target.handle).outcome >>= _ = _
  split
  · next hsame =>
    rw [Authorization.outcome_checkMembership_of_same hself' hin hdestinations' hto
      (hkey.trans hsame)]
    rfl
  · next hdistinct =>
    rw [Authorization.outcome_checkMembership_eq_ok.2 ⟨⟨_, hself', hin⟩, ⟨_, hdestinations', hto⟩,
      fun hsame => hdistinct (hkey.symm.trans hsame)⟩, ← between_of_key hkey,
      ← checkLimits_of_key hkey]
    rfl

/-! ## The ceilings -/

/-- The question for the limit on a target is answered with the strictest one. -/
theorem transferLimit_ofStore (hs : s.WellFormed) (hf : s.FitsColumns)
    (hu : fitsColumn user.id = true) {number : String} (ht : s.IsTarget user.id number target) :
    (Facts.ofStore s user).transferLimit target.handle.accountId target.handle.accountType =
      .ok (s.limitsOn user.id target.accountId target.accountType).min? := by
  obtain ⟨i, hi⟩ := Option.isSome_iff_exists.1 ht.resolved
  have htype : fitsColumn target.accountType = true := by
    rcases hs.types target ht.mem with h | h <;> rw [h] <;> rfl
  show (s.transferLimit user.id target.accountId target.accountType).mapError _ = _
  rw [hi, Store.transferLimit_eq hu (hf.accounts target ht.mem i hi) htype]
  rfl

/-- The strictest limit of the user on a target is the only one that counts. -/
theorem outcome_checkBeneficiaryLimit_target (hs : s.WellFormed) (hf : s.FitsColumns)
    (hp : Proposal s user fields day source target input) :
    (Authorization.checkBeneficiaryLimit (.ofStore s user) target.handle input.amount).outcome =
      match (s.limitsOn user.id target.accountId target.accountType).min? with
      | some limit =>
        if (limit : ℚ) < input.amount.val.value then
          .error (.refusal (.aboveBeneficiaryLimit (some limit)))
        else .ok ()
      | none => .ok () := by
  obtain ⟨-, -, hfinite, -⟩ := Request.transferInput_eq_ok hp.request
  rw [Authorization.outcome_checkBeneficiaryLimit,
    transferLimit_ofStore hs hf (fitsColumn_of_owned hf hp.owned) hp.aimed]
  cases hmin : (s.limitsOn user.id target.accountId target.accountType).min? with
  | none => rfl
  | some limit =>
    obtain ⟨⟨_, -, -, -, -, -, hpos⟩, -⟩ :=
      (Store.min?_limitsOn_eq_some_iff hp.aimed.resolved).1 hmin
    have heffective : Registry.effectiveLimit (some limit) = some limit := by
      rw [Registry.effectiveLimit, if_neg (by omega)]
    show Except.mapError _ (exceedsBeneficiaryLimit _ (Registry.effectiveLimit (some limit))) >>= _
      = _
    rw [Authorization.exceedsBeneficiaryLimit_some hfinite hpos, heffective]
    by_cases h : (limit : ℚ) < input.amount.val.value <;> simp only [h] <;> rfl

/-- An amount above no limit passes. -/
theorem Payable.outcome_checkBeneficiaryLimit (hs : s.WellFormed) (hf : s.FitsColumns)
    (hp : Payable s user fields day source target input) :
    (Authorization.checkBeneficiaryLimit (.ofStore s user) target.handle input.amount).outcome =
      .ok () := by
  rw [outcome_checkBeneficiaryLimit_target hs hf hp.toProposal]
  split
  · next limit hmin =>
    obtain ⟨hlimit, -⟩ := (Store.min?_limitsOn_eq_some_iff hp.aimed.resolved).1 hmin
    exact if_neg (not_lt.2 (hp.within limit hlimit))
  · rfl

/-- A payable proposal is decided by the daily ceiling. -/
theorem outcome_of_payable (hs : s.WellFormed) (hf : s.FitsColumns)
    (hp : Payable s user fields day source target input) :
    (authorize (.ofStore s user) user .tpt fields day settings).outcome =
      (Authorization.checkDailyLimit (.ofStore s user) settings source input).outcome >>= fun _ =>
        .ok (.between source target.handle input) := by
  rw [outcome_of_proposal hs hf hp.toProposal, if_neg hp.distinct,
    Authorization.outcome_checkLimits_tpt, hp.outcome_checkBeneficiaryLimit hs hf]
  rfl

/-- With a total at hand, the daily ceiling compares. -/
theorem outcome_of_total (hs : s.WellFormed) (hf : s.FitsColumns)
    (hp : Payable s user fields day source target input) (he : settings.enabled = true)
    {total : Decimal.Representable}
    (ht : s.bank.total source.accountId source.accountType day = .ok total) :
    (authorize (.ofStore s user) user .tpt fields day settings).outcome =
      (exceedsDailyLimit input.amount (some total) settings).mapError
        (fun e => .breakdown (.ofSignal e)) >>= fun exceeds =>
      if exceeds = true then
        .error (.refusal (.aboveDailyLimit source.accountId source.accountType (some day)))
      else .ok (.between source target.handle input) := by
  obtain ⟨hday, -⟩ := Request.transferInput_eq_ok hp.request
  have hanswer : (Facts.ofStore s user).total source.accountId source.accountType day =
      .ok (.decimal total) := by
    simp only [Facts.ofStore, ht]
    rfl
  rw [outcome_of_payable hs hf hp, Authorization.outcome_checkDailyLimit, if_pos he, hday, hanswer]
  show (Except.mapError _ (exceedsDailyLimit input.amount (some total) settings) >>= _) >>= _ = _
  rcases exceedsDailyLimit input.amount (some total) settings with e | _ | _ <;> rfl

/-! ## Every case -/

/-- What is granted is authorized. -/
theorem outcome_of_granted (hs : s.WellFormed) (hf : s.FitsColumns) {i : Instruction}
    (h : Granted s user fields day settings i) :
    (authorize (.ofStore s user) user .tpt fields day settings).outcome = .ok i := by
  obtain ⟨hp, hd⟩ := h
  cases he : settings.enabled with
  | false =>
    rw [outcome_of_payable hs hf hp, Authorization.outcome_checkDailyLimit, if_neg (by simp [he])]
    rfl
  | true =>
    obtain ⟨total, ht, hx⟩ := hd he
    rw [outcome_of_total hs hf hp he ht, hx]
    rfl

/-- What is denied fails for its reason. -/
theorem outcome_of_denied (hs : s.WellFormed) (hf : s.FitsColumns) {e : Fault}
    (h : Denied s user fields day settings e) :
    (authorize (.ofStore s user) user .tpt fields day settings).outcome = .error e := by
  cases h with
  | request hr => exact outcome_authorize_of_unreadable hr
  | wideUser hr hu =>
    exact outcome_authorize_of_no_source hr (Template.sourceAccount_of_not_fits hu)
  | noAccount hr hu ho =>
    exact outcome_authorize_of_no_source hr (Template.sourceAccount_of_none hu ho)
  | severalAccounts hr ho hl =>
    obtain ⟨a, ha⟩ := List.exists_mem_of_length_pos (Nat.lt_of_lt_of_le Nat.two_pos hl)
    exact outcome_authorize_of_no_source hr
      (Template.sourceAccount_of_several ((ho.sound a ha).fitsColumn hf) ho hl)
  | unknownNumber hr ho hn =>
    obtain ⟨_, -, -, h⟩ := outcome_of_owned settings hs (fitsColumn_of_owned hf ho) hr ho
    rw [h, Authorization.outcome_selectDestination_of_unknown]
    · rfl
    · intro c hc
      obtain ⟨r, hm, ha, rfl⟩ := exists_of_mem_candidates hc
      exact fun heq => hn r hm ha (Option.some_inj.1 heq)
  | external hr ho hm ha hn hx =>
    obtain ⟨_, -, -, h⟩ := outcome_of_owned settings hs (fitsColumn_of_owned hf ho) hr ho
    have hc := List.mem_map_of_mem (f := BeneficiaryRow.handle) (Store.mem_activeRows.2 ⟨hm, ha⟩)
    rw [h, Authorization.outcome_selectDestination_of_external hc (congrArg some hn)]
    · rfl
    · intro c hc heq
      obtain ⟨r, hm, ha, rfl⟩ := exists_of_mem_candidates hc
      exact hx r hm ha (Option.some_inj.1 heq)
  | sameAccount hp hk => rw [outcome_of_proposal hs hf hp, if_pos hk]
  | aboveBeneficiaryLimit hp hk hl hleast ha =>
    have hmin := (Store.min?_limitsOn_eq_some_iff hp.aimed.resolved).2 ⟨hl, hleast⟩
    rw [outcome_of_proposal hs hf hp, if_neg hk, Authorization.outcome_checkLimits_tpt,
      outcome_checkBeneficiaryLimit_target hs hf hp, hmin]
    simp only [if_pos ha]
    rfl
  | noTotal hp he ht =>
    obtain ⟨hday, -⟩ := Request.transferInput_eq_ok hp.request
    rw [outcome_of_payable hs hf hp, Authorization.outcome_checkDailyLimit, if_pos he, hday]
    simp only [Facts.ofStore, ht]
    rfl
  | undecided hp he ht hd =>
    rw [outcome_of_total hs hf hp he ht, hd]
    rfl
  | aboveDailyLimit hp he ht hd =>
    rw [outcome_of_total hs hf hp he ht, hd]
    rfl

/-- A payable proposal is granted, or the day's total speaks against it. -/
theorem granted_or_denied_of_payable (hp : Payable s user fields day source target input) :
    (∃ i, Granted s user fields day settings i) ∨ ∃ e, Denied s user fields day settings e := by
  cases he : settings.enabled with
  | false => exact .inl ⟨_, .intro hp fun h => by rw [he] at h; cases h⟩
  | true =>
    cases ht : s.bank.total source.accountId source.accountType day with
    | error b => exact .inr ⟨_, .noTotal hp he ht⟩
    | ok total =>
      rcases hd : exceedsDailyLimit input.amount (some total) settings with e | exceeds
      · exact .inr ⟨_, .undecided hp he ht hd⟩
      · cases exceeds with
        | true => exact .inr ⟨_, .aboveDailyLimit hp he ht hd⟩
        | false => exact .inl ⟨_, .intro hp fun _ => ⟨total, ht, hd⟩⟩

/-- A proposal goes to the same account, is above a limit, or is payable. -/
theorem granted_or_denied_of_proposal (hp : Proposal s user fields day source target input) :
    (∃ i, Granted s user fields day settings i) ∨ ∃ e, Denied s user fields day settings e := by
  by_cases hk : source.key = target.handle.key
  · exact .inr ⟨_, .sameAccount hp hk⟩
  cases hmin : (s.limitsOn user.id target.accountId target.accountType).min? with
  | none =>
    have hnone := (Store.min?_limitsOn_eq_none_iff hp.aimed.resolved).1 hmin
    exact granted_or_denied_of_payable ⟨hp, hk, fun l hl => (hnone l hl).elim⟩
  | some limit =>
    obtain ⟨hl, hleast⟩ := (Store.min?_limitsOn_eq_some_iff hp.aimed.resolved).1 hmin
    by_cases ha : (limit : ℚ) < input.amount.val.value
    · exact .inr ⟨_, .aboveBeneficiaryLimit hp hk hl hleast ha⟩
    · refine granted_or_denied_of_payable ⟨hp, hk, fun l hl' => (not_lt.1 ha).trans ?_⟩
      exact_mod_cast hleast l hl'

/-- For a user with one account, the number names a row or there is a reason against it. -/
theorem granted_or_denied_of_owned (hs : s.WellFormed)
    (hr : Request.transferInput fields day = .ok input)
    (ho : AccountHandle.IsSetOf [source] (s.bank.Owns user.id)) :
    (∃ i, Granted s user fields day settings i) ∨ ∃ e, Denied s user fields day settings e := by
  by_cases hn : ∃ r ∈ s.beneficiaries, r.isActiveOf user.id = true ∧
      r.accountNumber = input.toAccountNumber
  · obtain ⟨r, hm, ha, hn⟩ := hn
    by_cases hx : ∃ r ∈ s.beneficiaries, r.isActiveOf user.id = true ∧
        r.accountNumber = input.toAccountNumber ∧ r.accountId.isSome = true
    · obtain ⟨r', hm', ha', hn', hresolved⟩ := hx
      obtain ⟨target, ht⟩ := exists_isTarget hs hm' ha' hn' hresolved
      exact granted_or_denied_of_proposal ⟨hr, ho, ht⟩
    · refine .inr ⟨_, .external hr ho hm ha hn fun r' hm' ha' hn' => ?_⟩
      exact Bool.eq_false_iff.2 fun hresolved => hx ⟨r', hm', ha', hn', hresolved⟩
  · exact .inr ⟨_, .unknownNumber hr ho fun r hm ha heq => hn ⟨r, hm, ha, heq⟩⟩

/-- There is no third case. -/
theorem granted_or_denied (hs : s.WellFormed) :
    (∃ i, Granted s user fields day settings i) ∨ ∃ e, Denied s user fields day settings e := by
  rcases Request.transferInput_cases fields day with ⟨errors, hr⟩ | ⟨input, hr, -⟩
  · exact .inr ⟨_, .request hr⟩
  cases hu : fitsColumn user.id with
  | false => exact .inr ⟨_, .wideUser hr hu⟩
  | true =>
    obtain ⟨hs', -, ho⟩ := Template.selfAccounts_eq (s := s) hu
    match hs', ho with
    | [], ho =>
      refine .inr ⟨_, .noAccount hr hu fun h hh => ?_⟩
      obtain ⟨_, hm, -⟩ := ho.complete h hh
      cases hm
    | [source], ho => exact granted_or_denied_of_owned hs hr ho
    | _ :: _ :: _, ho => exact .inr ⟨_, .severalAccounts hr ho (by simp)⟩

/-- A user with one account and two active beneficiaries of one number, the first of which has no
account of this system. -/
def sample : Store where
  beneficiaries := [
    { id := 1, userId := 7, name := "Ann", accountName := "Ann", institutionName := "Far",
      accountNumber := "B1", accountType := 2 },
    { id := 2, userId := 7, name := "Bob", accountName := "Bob", institutionName := "Near",
      accountNumber := "B1", accountId := some 20, clientId := some 2, officeId := some 1,
      accountType := 2, transferLimit := some 100 }]
  bank := {
    offices := [⟨1, some "Main"⟩]
    clients := [⟨1, some 1, some "Cleo"⟩, ⟨2, some 1, some "Bob"⟩]
    mappings := [⟨1, some 7, some 1⟩]
    savings := [⟨10, some "A1", some 1, some 300⟩, ⟨20, some "B1", some 2, some 300⟩] }

/-- A request of an amount for the number of both beneficiaries. -/
def sampleRequest (amount : String) : Fields :=
  [("toAccountNumber", .text "B1"), ("transferAmount", .text amount),
    ("transferDescription", .text "rent")]

end ThirdParty

open ThirdParty in
/-- Authorization of transfers to third parties is sound and complete: an instruction is returned
exactly if it is granted, and an error exactly if it is the reason of a denial. The instruction
carries the given day and description. -/
theorem authorize_thirdParty_iff (s : Store) (user : User) (fields : Fields) (day : Date)
    (settings : LimitSettings) (hs : s.WellFormed) (hf : s.FitsColumns) :
    (∀ i, (authorize (.ofStore s user) user .tpt fields day settings).outcome = .ok i ↔
      Granted s user fields day settings i) ∧
    (∀ e, (authorize (.ofStore s user) user .tpt fields day settings).outcome = .error e ↔
      Denied s user fields day settings e) ∧
    ∀ i, Granted s user fields day settings i →
      i.day = day ∧ (fields.get "transferDescription").text? = some i.description := by
  refine ⟨fun i => ⟨fun h => ?_, outcome_of_granted hs hf⟩,
    fun e => ⟨fun h => ?_, outcome_of_denied hs hf⟩, ?_⟩
  · rcases granted_or_denied hs with ⟨j, hj⟩ | ⟨e, he⟩
    · rw [outcome_of_granted hs hf hj] at h
      cases h
      exact hj
    · rw [outcome_of_denied hs hf he] at h
      cases h
  · rcases granted_or_denied hs with ⟨j, hj⟩ | ⟨e', he⟩
    · rw [outcome_of_granted hs hf hj] at h
      cases h
    · rw [outcome_of_denied hs hf he] at h
      cases h
      exact he
  · rintro _ ⟨hp, -⟩
    obtain ⟨hday, hdescription, -⟩ := Request.transferInput_eq_ok hp.request
    exact ⟨hday, hdescription⟩

open ThirdParty in
/-- The unresolved beneficiary is passed over, and the limit of the other one counts. -/
theorem sample_granted_and_denied :
    Granted sample ⟨7, []⟩ (sampleRequest "50") ⟨2024, .march, 1⟩ {}
      { fromOfficeId := some 1, fromClientId := some 1, fromAccountId := some 10,
        fromAccountType := 2, toOfficeId := some 1, toClientId := some 2, toAccountId := some 20,
        toAccountType := 2, amount := .ofInt 50, day := ⟨2024, .march, 1⟩,
        description := "rent" } ∧
    Denied sample ⟨7, []⟩ (sampleRequest "150") ⟨2024, .march, 1⟩ {}
      (.refusal (.aboveBeneficiaryLimit (some 100))) := by
  have hs : sample.WellFormed := ⟨by decide, by decide⟩
  have hf : sample.FitsColumns := ⟨by decide, by decide⟩
  obtain ⟨hgranted, -, -⟩ :=
    authorize_thirdParty_iff sample ⟨7, []⟩ (sampleRequest "50") ⟨2024, .march, 1⟩ {} hs hf
  obtain ⟨-, hdenied, -⟩ :=
    authorize_thirdParty_iff sample ⟨7, []⟩ (sampleRequest "150") ⟨2024, .march, 1⟩ {} hs hf
  exact ⟨(hgranted _).1 (by cbv), (hdenied _).1 (by cbv)⟩

end Remit
