import Mathlib
import Remit.Proofs.Request.Transfer
import Remit.Proofs.Transfer.Authorization

/-!
# What authorization asks, and what it may rely on

The answers that authorization gets come from tables which others write in the meantime, so they
need not fit together. Whatever they are, an instruction that is returned joins two accounts that
were `Vetted` and, for a third party, keeps below both ceilings (`Passed.withinCeilings`).

Authorization asks at most four questions, always in one order (`questions`). `Asked` lists how far
it can get: a ceiling is asked for only between vetted ends, and the daily total only for an amount
that the first ceiling lets pass (`asked_authorize`). `authorize_safe` puts both together.
-/

namespace Remit

/-- Two accounts that a transfer may join, by the answers about them: the source is the one that was
given and is still among the user's accounts, the destination is a resolved candidate of the
requested number and is among the destinations, and they are not one account. -/
structure Vetted (facts : Facts) (type : TransferType) (fields : Fields) (day : Date)
    (source destination : AccountHandle) (input : TransferInput) : Prop where
  request : Request.transferInput fields day = .ok input
  taken : facts.source = .ok source
  candidate : ∃ hs, facts.candidates type = .ok hs ∧ destination ∈ hs
  named : destination.accountNumber = some input.toAccountNumber
  resolved : destination.isResolved = true
  owned : ∃ hs, facts.selfAccounts = .ok hs ∧ source.isIn hs = true
  offered : ∃ hs, facts.destinations type = .ok hs ∧ destination.isIn hs = true
  distinct : source.key ≠ destination.key

/-- All questions of one authorization, in order. -/
def questions (type : TransferType) (source destination : AccountHandle) (day : Date) :
    List Call :=
  [.destinationCandidates type, .destinations type,
    .transferLimit destination.accountId destination.accountType,
    .total source.accountId source.accountType day]

/-- What is asked, by how far a decision gets. -/
inductive Asked (facts : Facts) (type : TransferType) (fields : Fields) (day : Date)
    (settings : LimitSettings) : List Call → Prop
  | nothing : Asked facts type fields day settings []
  | candidates : Asked facts type fields day settings [.destinationCandidates type]
  | destinations :
    Asked facts type fields day settings [.destinationCandidates type, .destinations type]
  | transferLimit {source destination input} (ht : type = .tpt)
      (hv : Vetted facts type fields day source destination input) :
      Asked facts type fields day settings ((questions type source destination day).take 3)
  | total {source destination input} (ht : type = .tpt)
      (hv : Vetted facts type fields day source destination input)
      (hl : WithinLimit facts destination input.amount) (he : settings.enabled = true) :
      Asked facts type fields day settings (questions type source destination day)

variable {facts : Facts} {user : User} {type : TransferType} {fields : Fields} {day : Date}
  {settings : LimitSettings} {source destination : AccountHandle} {input : TransferInput}

/-! ## What an instruction has passed -/

/-- The ends of an authorized transfer are vetted. -/
theorem Passed.vetted (h : Passed facts type fields day settings source destination input) :
    Vetted facts type fields day source destination input := by
  obtain ⟨candidates, hcandidates, hselected⟩ := h.selected
  obtain ⟨hm, hn, hr⟩ := Authorization.of_outcome_selectDestination hselected
  exact ⟨h.request, h.taken, ⟨candidates, hcandidates, hm⟩, hn, hr, h.owned, h.offered, h.distinct⟩

/-- An authorized transfer to a third party keeps below both ceilings. -/
theorem Passed.withinCeilings
    (h : Passed facts .tpt fields day settings source destination input) :
    WithinLimit facts destination input.amount ∧ WithinDay facts settings source input := by
  obtain ⟨-, -, hfinite, -⟩ := Request.transferInput_eq_ok h.request
  exact (Authorization.outcome_checkLimits_tpt_eq_ok hfinite).1 h.limits

/-! ## What each step asks -/

namespace Authorization

/-- Selecting the destination asks nothing. -/
theorem calls_selectDestination {candidates : List AccountHandle} {number : String} :
    (selectDestination candidates number).calls = [] := by
  simp only [selectDestination]
  split
  · rfl
  · split <;> rfl

/-- The destinations are asked for, unless the own accounts are not known. -/
theorem calls_checkMembership (facts : Facts) (user : User) (type : TransferType)
    (source destination : AccountHandle) :
    (checkMembership facts user type source destination).calls = [] ∨
      (checkMembership facts user type source destination).calls = [.destinations type] := by
  unfold checkMembership
  cases facts.selfAccounts with
  | error e => exact .inl rfl
  | ok self =>
    refine .inr ?_
    simp only [Act.calls_lift_ok_bind, Act.calls_call_bind]
    cases facts.destinations type with
    | error e => rfl
    | ok destinations =>
      simp only [Act.calls_lift_ok_bind]
      cases source.isIn self <;> cases destination.isIn destinations <;>
        cases source.same destination <;> rfl

/-- Ends that may be joined were compared with the destinations. -/
theorem calls_checkMembership_of_ok
    (h : (checkMembership facts user type source destination).outcome = .ok ()) :
    (checkMembership facts user type source destination).calls = [.destinations type] := by
  obtain ⟨⟨self, hself, hs⟩, ⟨destinations, hdestinations, hd⟩, hkey⟩ :=
    outcome_checkMembership_eq_ok.1 h
  rw [ne_eq, ← AccountHandle.same_iff, Bool.not_eq_true] at hkey
  simp only [checkMembership, hself, hdestinations, Act.calls_lift_ok_bind, Act.calls_call_bind, hs,
    hd, hkey]
  rfl

/-- The ceiling of a beneficiary takes one question. -/
theorem calls_checkBeneficiaryLimit (facts : Facts) (destination : AccountHandle)
    (amount : Decimal) : (checkBeneficiaryLimit facts destination amount).calls =
      [.transferLimit destination.accountId destination.accountType] := by
  simp only [checkBeneficiaryLimit, Act.calls_call_bind]
  cases facts.transferLimit destination.accountId destination.accountType with
  | error e => rfl
  | ok limit =>
    simp only [Act.calls_lift_ok_bind]
    rcases exceedsBeneficiaryLimit amount (Registry.effectiveLimit limit) with e | _ | _ <;> rfl

/-- The total is asked for only if the daily ceiling is switched on. -/
theorem calls_checkDailyLimit :
    (checkDailyLimit facts settings source input).calls =
      if settings.enabled = true then [.total source.accountId source.accountType input.day]
      else [] := by
  unfold checkDailyLimit
  cases settings.enabled with
  | false => rfl
  | true =>
    simp only [if_true, Act.calls_call_bind]
    cases facts.total source.accountId source.accountType input.day with
    | error e => rfl
    | ok total =>
      simp only [Act.calls_lift_ok_bind, Act.liftBreakdown]
      cases total.toDecimal with
      | error e => rfl
      | ok consumed =>
        simp only [Except.mapError, Act.calls_lift_ok_bind]
        rcases exceedsDailyLimit input.amount (some consumed) settings with e | _ | _ <;> rfl

/-- Between vetted ends the ceilings are asked for, the second one only if the first one lets the
amount pass. -/
theorem asked_checkLimits (settings : LimitSettings)
    (hv : Vetted facts type fields day source destination input) :
    Asked facts type fields day settings
      (.destinationCandidates type :: .destinations type ::
        (checkLimits facts settings type source destination input).calls) := by
  obtain ⟨hday, -, hfinite, -⟩ := Request.transferInput_eq_ok hv.request
  cases type with
  | self => exact .destinations
  | tpt =>
    have hcalls := calls_checkBeneficiaryLimit facts destination input.amount
    rw [checkLimits]
    cases hlimit : (checkBeneficiaryLimit facts destination input.amount).outcome with
    | error e =>
      rw [Act.calls_bind_of_error hlimit, hcalls]
      exact .transferLimit rfl hv
    | ok =>
      rw [Act.calls_bind_of_ok hlimit, hcalls, calls_checkDailyLimit]
      split
      · next he =>
        rw [hday]
        exact .total rfl hv ((outcome_checkBeneficiaryLimit_eq_ok hfinite).1 hlimit) he
      · exact .transferLimit rfl hv

end Authorization

/-! ## What a decision asks -/

open Authorization in
/-- Authorization asks no further than its decision gets. -/
theorem asked_authorize :
    Asked facts type fields day settings
      (authorize facts user type fields day settings).calls := by
  rw [authorize]
  -- The steps are run one by one; one that fails ends the questions there.
  cases hrequest : Request.transferInput fields day with
  | error e => exact .nothing
  | ok input =>
  cases htaken : facts.source with
  | error e => exact .nothing
  | ok source =>
  simp only [Act.calls_lift_ok_bind, Act.calls_call_bind]
  cases hcandidates : facts.candidates type with
  | error e => exact .candidates
  | ok candidates =>
  rw [Act.calls_lift_ok_bind]
  cases hselected : (selectDestination candidates input.toAccountNumber).outcome with
  | error e =>
    rw [Act.calls_bind_of_error hselected, calls_selectDestination]
    exact .candidates
  | ok destination =>
  rw [Act.calls_bind_of_ok hselected, calls_selectDestination, List.nil_append]
  cases hmembership : (checkMembership facts user type source destination).outcome with
  | error e =>
    rw [Act.calls_bind_of_error hmembership]
    rcases calls_checkMembership facts user type source destination with hcalls | hcalls <;>
      rw [hcalls]
    · exact .candidates
    · exact .destinations
  | ok =>
  rw [Act.calls_bind_of_ok hmembership, calls_checkMembership_of_ok hmembership]
  obtain ⟨hm, hn, hr⟩ := of_outcome_selectDestination hselected
  obtain ⟨howned, hoffered, hdistinct⟩ := outcome_checkMembership_eq_ok.1 hmembership
  have hasked := asked_checkLimits settings
    (Vetted.mk hrequest htaken ⟨candidates, hcandidates, hm⟩ hn hr howned hoffered hdistinct)
  cases hlimits : (checkLimits facts settings type source destination input).outcome with
  | error e =>
    rw [Act.calls_bind_of_error hlimits]
    exact hasked
  | ok =>
    rw [Act.calls_bind_of_ok hlimits, Act.calls_log_bind, Act.calls_pure, List.append_nil]
    exact hasked

/-- Whatever is asked begins the list of all questions. -/
theorem Asked.isPrefix {calls : List Call} (h : Asked facts type fields day settings calls) :
    ∃ source destination, calls <+: questions type source destination day := by
  cases h with
  | nothing => exact ⟨default, default, List.nil_prefix⟩
  | candidates => exact ⟨default, default, _, rfl⟩
  | destinations => exact ⟨default, default, _, rfl⟩
  | transferLimit _ _ => exact ⟨_, _, List.take_prefix 3 _⟩
  | total _ _ _ _ => exact ⟨_, _, List.prefix_rfl⟩

/-- Whatever the answers are, an instruction joins two vetted accounts, keeps below both ceilings
if it is for a third party, and the questions are the first ones of `questions`, no further than
`Asked` allows. -/
theorem authorize_safe (facts : Facts) (user : User) (type : TransferType) (fields : Fields)
    (day : Date) (settings : LimitSettings) :
    (∀ i, (authorize facts user type fields day settings).outcome = .ok i →
      ∃ source destination input, i = .between source destination input ∧
        Vetted facts type fields day source destination input ∧
        (type = .tpt → WithinLimit facts destination input.amount ∧
          WithinDay facts settings source input)) ∧
    Asked facts type fields day settings (authorize facts user type fields day settings).calls ∧
    ∃ source destination, (authorize facts user type fields day settings).calls <+:
      questions type source destination day := by
  refine ⟨fun i h => ?_, asked_authorize, asked_authorize.isPrefix⟩
  obtain ⟨source, destination, input, hp, rfl⟩ := outcome_authorize_eq_ok.1 h
  refine ⟨source, destination, input, rfl, hp.vetted, ?_⟩
  rintro rfl
  exact hp.withinCeilings

/-- Answers of different moments: between the questions the source got a sibling, and the
destination another number. -/
def Facts.torn : Facts where
  source := .ok ⟨some 10, 2, some 1, some 1, some "A1", none, none⟩
  selfAccounts := .ok [⟨some 11, 2, some 1, some 1, some "A9", none, none⟩,
    ⟨some 10, 2, some 1, some 1, some "A1", none, none⟩]
  candidates _ := .ok [⟨none, 2, none, none, some "B2", none, none⟩,
    ⟨some 20, 2, some 2, some 1, some "B2", none, none⟩]
  destinations _ := .ok [⟨some 20, 2, some 2, some 1, some "C3", none, none⟩]
  transferLimit _ _ := .ok (some 9)
  total _ _ _ := .ok (.int 4)

/-- A request for a transfer between these accounts. -/
def Fields.torn : Fields :=
  [("toAccountNumber", .text "B2"), ("transferAmount", .text "5"),
    ("transferDescription", .text "d")]

/-- A transfer that is authorized on such answers, after all four questions. -/
theorem torn_safe :
    ∃ i source destination input,
      (authorize .torn ⟨7, []⟩ .tpt .torn ⟨2024, .march, 1⟩ ⟨true, some 9⟩).outcome = .ok i ∧
      i = .between source destination input ∧
      Vetted .torn .tpt .torn ⟨2024, .march, 1⟩ source destination input ∧
      WithinLimit .torn destination input.amount ∧ WithinDay .torn ⟨true, some 9⟩ source input ∧
      (authorize .torn ⟨7, []⟩ .tpt .torn ⟨2024, .march, 1⟩ ⟨true, some 9⟩).calls =
        [.destinationCandidates .tpt, .destinations .tpt, .transferLimit (some 20) 2,
          .total (some 10) 2 ⟨2024, .march, 1⟩] := by
  obtain ⟨hsound, -, -⟩ :=
    authorize_safe .torn ⟨7, []⟩ .tpt .torn ⟨2024, .march, 1⟩ ⟨true, some 9⟩
  have houtcome : ∃ i,
      (authorize .torn ⟨7, []⟩ .tpt .torn ⟨2024, .march, 1⟩ ⟨true, some 9⟩).outcome = .ok i :=
    ⟨{ fromOfficeId := some 1, fromClientId := some 1, fromAccountId := some 10,
       fromAccountType := 2, toOfficeId := some 1, toClientId := some 2, toAccountId := some 20,
       toAccountType := 2, amount := .ofInt 5, day := ⟨2024, .march, 1⟩, description := "d" },
    by cbv⟩
  obtain ⟨i, hi⟩ := houtcome
  obtain ⟨source, destination, input, rfl, hv, hceilings⟩ := hsound i hi
  exact ⟨_, source, destination, input, hi, rfl, hv, (hceilings rfl).1, (hceilings rfl).2, by cbv⟩

end Remit
