import Remit.Proofs.Decimal.Value
import Remit.Proofs.Journal
import Remit.Transfer.Authorization

/-!
# The steps of authorization

What each step of `authorize` decides, for any answers to its questions. The destination is the
first resolved candidate of the requested number (`outcome_selectDestination_of_some`), both ends
are checked (`outcome_checkMembership`), and then come the ceilings
(`outcome_checkBeneficiaryLimit`, `outcome_checkDailyLimit`). `outcome_authorize` puts the steps
together. An instruction that is returned has passed all of them (`outcome_authorize_eq_ok`).
`WithinLimit` and `WithinDay` say what it means to pass the two ceilings.
-/

namespace Remit

/-- What a transfer has passed once it is authorized: the answers that were given on the way, and
what they had to be. -/
structure Passed (facts : Facts) (type : TransferType) (fields : Fields) (day : Date)
    (settings : LimitSettings) (source destination : AccountHandle) (input : TransferInput) :
    Prop where
  request : Request.transferInput fields day = .ok input
  taken : facts.source = .ok source
  selected : ∃ candidates, facts.candidates type = .ok candidates ∧
    (Authorization.selectDestination candidates input.toAccountNumber).outcome = .ok destination
  owned : ∃ hs, facts.selfAccounts = .ok hs ∧ source.isIn hs = true
  offered : ∃ hs, facts.destinations type = .ok hs ∧ destination.isIn hs = true
  distinct : source.key ≠ destination.key
  limits : (Authorization.checkLimits facts settings type source destination input).outcome = .ok ()

/-- No positive limit is stored for the destination that the amount is above. -/
def WithinLimit (facts : Facts) (destination : AccountHandle) (amount : Decimal) : Prop :=
  ∃ limit, facts.transferLimit destination.accountId destination.accountType = .ok limit ∧
    ∀ l, limit = some l → 0 < l → amount.value ≤ l

/-- The daily ceiling is switched off, or it lets the amount pass after the total of the day. -/
def WithinDay (facts : Facts) (settings : LimitSettings) (source : AccountHandle)
    (input : TransferInput) : Prop :=
  settings.enabled = true → ∃ total consumed,
    facts.total source.accountId source.accountType input.day = .ok total ∧
    total.toDecimal = .ok consumed ∧
    exceedsDailyLimit input.amount (some consumed) settings = .ok false

namespace Authorization

variable {facts : Facts} {user : User} {type : TransferType} {settings : LimitSettings}
  {source destination : AccountHandle} {candidates : List AccountHandle} {number : String}
  {input : TransferInput}

/-! ## The destination -/

/-- The first resolved candidate of a number is selected. -/
theorem outcome_selectDestination_of_some
    (h : candidates.find? (fun c => c.accountNumber == some number && c.isResolved) =
      some destination) :
    (selectDestination candidates number).outcome = .ok destination := by
  simp only [selectDestination, List.find?_filter]
  have hp : (fun c : AccountHandle => decide ((c.accountNumber == some number) = true ∧
      c.isResolved = true)) = fun c => c.accountNumber == some number && c.isResolved := by
    funext c
    simp [Bool.beq_eq_decide_eq]
  rw [hp, h]
  rfl

/-- Only a resolved candidate of the number is selected. -/
theorem of_outcome_selectDestination
    (h : (selectDestination candidates number).outcome = .ok destination) :
    destination ∈ candidates ∧ destination.accountNumber = some number ∧
      destination.isResolved = true := by
  simp only [selectDestination] at h
  split at h
  · next found hfound =>
    cases h
    obtain ⟨hm, hn⟩ := List.mem_filter.1 (List.mem_of_find?_eq_some hfound)
    exact ⟨hm, by simpa using hn, List.find?_some hfound⟩
  · split at h
    · cases h
    · cases h

/-- Without a candidate of the number there is no destination. -/
theorem outcome_selectDestination_of_unknown
    (h : ∀ c ∈ candidates, c.accountNumber ≠ some number) :
    (selectDestination candidates number).outcome =
      .error (.refusal (.invalidDestination notFoundReason)) := by
  have hm : candidates.filter (·.accountNumber == some number) = [] := by
    simpa [List.filter_eq_nil_iff] using h
  simp only [selectDestination, hm]
  rfl

/-- A number of unresolved candidates only is that of an external account. -/
theorem outcome_selectDestination_of_external (hm : destination ∈ candidates)
    (hn : destination.accountNumber = some number)
    (h : ∀ c ∈ candidates, c.accountNumber = some number → c.isResolved = false) :
    (selectDestination candidates number).outcome =
      .error (.refusal (.invalidDestination externalReason)) := by
  have hf : (candidates.filter (·.accountNumber == some number)).find? (·.isResolved) = none := by
    simpa [List.find?_eq_none] using h
  have hne : (candidates.filter (·.accountNumber == some number)).isEmpty = false := by
    rw [← Bool.not_eq_true, List.isEmpty_iff]
    exact List.ne_nil_of_mem (List.mem_filter.2 ⟨hm, by simp [hn]⟩)
  simp only [selectDestination, hf, hne]
  rfl

/-! ## Both ends -/

/-- Both ends are checked against what the user may use, and then against each other. -/
theorem outcome_checkMembership :
    (checkMembership facts user type source destination).outcome =
      facts.selfAccounts >>= fun self => facts.destinations type >>= fun destinations =>
        if source.isIn self = false then .error (.refusal .invalidSource)
        else if destination.isIn destinations = false then
          .error (.refusal (.invalidDestination none))
        else if source.same destination = true then .error (.refusal .sameAccount)
        else .ok () := by
  simp only [checkMembership, Act.outcome_bind, Act.outcome_lift, Act.outcome_call]
  congr 1
  funext self
  show (facts.destinations type >>= _) = _
  congr 1
  funext destinations
  cases source.isIn self <;> cases destination.isIn destinations <;>
    cases source.same destination <;> rfl

/-- Both ends pass exactly if they are among the user's accounts and destinations, and differ. -/
theorem outcome_checkMembership_eq_ok :
    (checkMembership facts user type source destination).outcome = .ok () ↔
      (∃ hs, facts.selfAccounts = .ok hs ∧ source.isIn hs = true) ∧
      (∃ hs, facts.destinations type = .ok hs ∧ destination.isIn hs = true) ∧
      source.key ≠ destination.key := by
  rw [outcome_checkMembership, ne_eq, ← AccountHandle.same_iff]
  simp only [bind_eq_ok]
  constructor
  · rintro ⟨self, hself, destinations, hdestinations, h⟩
    split at h
    · cases h
    split at h
    · cases h
    split at h
    · cases h
    · next hs hd hsame =>
      exact ⟨⟨self, hself, by simpa using hs⟩, ⟨destinations, hdestinations, by simpa using hd⟩,
        hsame⟩
  · rintro ⟨⟨self, hself, hs⟩, ⟨destinations, hdestinations, hd⟩, hsame⟩
    refine ⟨self, hself, destinations, hdestinations, ?_⟩
    rw [if_neg (by simp [hs]), if_neg (by simp [hd]), if_neg hsame]

/-- Ends that the user may use are refused only if they are one account. -/
theorem outcome_checkMembership_of_same {self destinations : List AccountHandle}
    (hself : facts.selfAccounts = .ok self) (hs : source.isIn self = true)
    (hdestinations : facts.destinations type = .ok destinations)
    (hd : destination.isIn destinations = true) (hkey : source.key = destination.key) :
    (checkMembership facts user type source destination).outcome =
      .error (.refusal .sameAccount) := by
  rw [outcome_checkMembership, hself, hdestinations]
  show ite _ _ _ = _
  rw [if_neg (by simp [hs]), if_neg (by simp [hd]), if_pos (AccountHandle.same_iff.2 hkey)]

/-! ## Ceilings -/

/-- The ceiling of a beneficiary account refuses what is above it. -/
theorem outcome_checkBeneficiaryLimit {amount : Decimal} :
    (checkBeneficiaryLimit facts destination amount).outcome =
      facts.transferLimit destination.accountId destination.accountType >>= fun limit =>
        (exceedsBeneficiaryLimit amount (Registry.effectiveLimit limit)).mapError
          (fun e => .breakdown (.ofSignal e)) >>= fun exceeds =>
        if exceeds = true then
          .error (.refusal (.aboveBeneficiaryLimit (Registry.effectiveLimit limit)))
        else .ok () := by
  simp only [checkBeneficiaryLimit, Act.outcome_bind, Act.outcome_lift, Act.outcome_call,
    Act.outcome_liftBreakdown]
  show (facts.transferLimit _ _ >>= _) = _
  congr 1
  funext limit
  rcases exceedsBeneficiaryLimit amount (Registry.effectiveLimit limit) with e | _ | _ <;> rfl

/-- A finite amount is compared with a positive limit by value. -/
theorem exceedsBeneficiaryLimit_some {amount : Decimal} (ha : amount.isFinite = true) {limit : Int}
    (hl : 0 < limit) :
    exceedsBeneficiaryLimit amount (Registry.effectiveLimit (some limit)) =
      .ok (decide ((limit : ℚ) < amount.value)) := by
  rw [Registry.effectiveLimit, if_neg (by omega), exceedsBeneficiaryLimit, if_neg (by omega),
    Decimal.lt?_finite (Decimal.isFinite_ofInt limit) ha, Decimal.value_ofInt]

/-- An effective limit is not exceeded exactly if no positive limit is. -/
theorem exceedsBeneficiaryLimit_eq_ok_false {amount : Decimal} (ha : amount.isFinite = true)
    {limit : Option Int} :
    exceedsBeneficiaryLimit amount (Registry.effectiveLimit limit) = .ok false ↔
      ∀ l, limit = some l → 0 < l → amount.value ≤ l := by
  cases limit with
  | none => exact ⟨fun _ => nofun, fun _ => rfl⟩
  | some limit =>
    by_cases hpos : 0 < limit
    · rw [exceedsBeneficiaryLimit_some ha hpos]
      simp [hpos]
    · have hnone : Registry.effectiveLimit (some limit) = none := by
        rw [Registry.effectiveLimit, if_pos (by omega)]
      rw [hnone]
      refine ⟨fun _ l hl hl' => ?_, fun _ => rfl⟩
      cases hl
      exact (hpos hl').elim

/-- A finite amount passes the ceiling of a beneficiary account exactly if it is above no limit. -/
theorem outcome_checkBeneficiaryLimit_eq_ok {amount : Decimal} (ha : amount.isFinite = true) :
    (checkBeneficiaryLimit facts destination amount).outcome = .ok () ↔
      WithinLimit facts destination amount := by
  rw [outcome_checkBeneficiaryLimit, WithinLimit]
  simp only [bind_eq_ok, mapError_eq_ok]
  refine exists_congr fun limit => and_congr_right fun _ => ?_
  rw [← exceedsBeneficiaryLimit_eq_ok_false ha]
  constructor
  · rintro ⟨exceeds, hexceeds, h⟩
    cases exceeds with
    | true => cases h
    | false => exact hexceeds
  · exact fun h => ⟨false, h, rfl⟩

/-- The daily ceiling of the source account, where there is one, refuses what goes above it. -/
theorem outcome_checkDailyLimit :
    (checkDailyLimit facts settings source input).outcome =
      if settings.enabled = true then
        facts.total source.accountId source.accountType input.day >>= fun total =>
        total.toDecimal.mapError .breakdown >>= fun consumed =>
        (exceedsDailyLimit input.amount (some consumed) settings).mapError
          (fun e => .breakdown (.ofSignal e)) >>= fun exceeds =>
        if exceeds = true then
          .error (.refusal (.aboveDailyLimit source.accountId source.accountType (some input.day)))
        else .ok ()
      else .ok () := by
  unfold checkDailyLimit
  cases settings.enabled with
  | false => rfl
  | true =>
    simp only [if_true, Act.outcome_bind, Act.outcome_lift, Act.outcome_call,
      Act.outcome_liftBreakdown]
    show (facts.total _ _ _ >>= _) = _
    congr 1
    funext total
    congr 1
    funext consumed
    rcases exceedsDailyLimit input.amount (some consumed) settings with e | _ | _ <;> rfl

/-- A transfer passes the daily ceiling exactly if that is switched off or not exceeded. -/
theorem outcome_checkDailyLimit_eq_ok :
    (checkDailyLimit facts settings source input).outcome = .ok () ↔
      WithinDay facts settings source input := by
  rw [outcome_checkDailyLimit, WithinDay]
  split
  · next he =>
    simp only [bind_eq_ok, mapError_eq_ok, he, true_imp_iff]
    constructor
    · rintro ⟨total, htotal, consumed, hconsumed, exceeds, hexceeds, h⟩
      cases exceeds with
      | true => cases h
      | false => exact ⟨total, consumed, htotal, hconsumed, hexceeds⟩
    · rintro ⟨total, consumed, htotal, hconsumed, h⟩
      exact ⟨total, htotal, consumed, hconsumed, false, h, rfl⟩
  · next he => exact ⟨fun _ h => (he h).elim, fun _ => rfl⟩

/-- For a third party, the ceiling of the beneficiary comes before that of the day. -/
theorem outcome_checkLimits_tpt :
    (checkLimits facts settings .tpt source destination input).outcome =
      (checkBeneficiaryLimit facts destination input.amount).outcome >>= fun _ =>
        (checkDailyLimit facts settings source input).outcome :=
  Act.outcome_bind _ _

/-- A transfer of a finite amount to a third party passes exactly if it keeps below both
ceilings. -/
theorem outcome_checkLimits_tpt_eq_ok (ha : input.amount.val.isFinite = true) :
    (checkLimits facts settings .tpt source destination input).outcome = .ok () ↔
      WithinLimit facts destination input.amount ∧ WithinDay facts settings source input := by
  rw [outcome_checkLimits_tpt, ← outcome_checkBeneficiaryLimit_eq_ok ha,
    ← outcome_checkDailyLimit_eq_ok, bind_eq_ok]
  exact ⟨fun ⟨(), h⟩ => h, fun h => ⟨(), h⟩⟩

end Authorization

/-! ## All steps -/

open Authorization

variable {facts : Facts} {user : User} {type : TransferType} {fields : Fields} {day : Date}
  {settings : LimitSettings}

/-- Authorization takes its steps in order; the first one that fails decides. -/
theorem outcome_authorize :
    (authorize facts user type fields day settings).outcome =
      Request.transferInput fields day >>= fun input => facts.source >>= fun source =>
      facts.candidates type >>= fun candidates =>
      (selectDestination candidates input.toAccountNumber).outcome >>= fun destination =>
      (checkMembership facts user type source destination).outcome >>= fun _ =>
      (checkLimits facts settings type source destination input).outcome >>= fun _ =>
      .ok (.between source destination input) := by
  simp only [authorize, Act.outcome_bind, Act.outcome_lift, Act.outcome_call, Act.outcome_log,
    Act.outcome_pure]
  rfl

/-- A request that cannot be read is refused for that. -/
theorem outcome_authorize_of_unreadable {e : Fault}
    (hr : Request.transferInput fields day = .error e) :
    (authorize facts user type fields day settings).outcome = .error e := by
  rw [outcome_authorize, hr]
  rfl

/-- Without a source of the transfer, nothing else is asked. -/
theorem outcome_authorize_of_no_source {e : Fault} {input : TransferInput}
    (hr : Request.transferInput fields day = .ok input) (h : facts.source = .error e) :
    (authorize facts user type fields day settings).outcome = .error e := by
  rw [outcome_authorize, hr, h]
  rfl

/-- An instruction is returned exactly for what has passed every step. -/
theorem outcome_authorize_eq_ok {i : Instruction} :
    (authorize facts user type fields day settings).outcome = .ok i ↔
      ∃ source destination input,
        Passed facts type fields day settings source destination input ∧
        i = .between source destination input := by
  rw [outcome_authorize]
  simp only [bind_eq_ok]
  constructor
  · rintro ⟨input, hrequest, source, hsource, candidates, hcandidates, destination, hselected, _,
      hmembership, _, hlimits, h⟩
    obtain ⟨howned, hoffered, hdistinct⟩ := outcome_checkMembership_eq_ok.1 hmembership
    cases h
    exact ⟨source, destination, input, ⟨hrequest, hsource, ⟨candidates, hcandidates, hselected⟩,
      howned, hoffered, hdistinct, hlimits⟩, rfl⟩
  · rintro ⟨source, destination, input, h, rfl⟩
    obtain ⟨candidates, hcandidates, hselected⟩ := h.selected
    exact ⟨input, h.request, source, h.taken, candidates, hcandidates, destination, hselected, (),
      outcome_checkMembership_eq_ok.2 ⟨h.owned, h.offered, h.distinct⟩, (), h.limits, rfl⟩

end Remit
