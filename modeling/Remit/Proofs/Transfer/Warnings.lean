import Remit.Proofs.Request.Transfer
import Remit.Proofs.Transfer.Questions

/-!
# Which decisions are told

A decision about a transfer is told in the technical log: an instruction by one record of
information, a rejection by one warning. `Act.Tells` says this of an act and passes from the steps
of an act to the whole (`Act.Tells.bind`). Three rejections are not told (`Refusal.isUntold`): the
user does not own exactly one account, or both ends are one account. Everything else that ends a
decision, a request that cannot be read or a breakdown, is not told either.

This holds for whatever is answered to the questions of a decision, as long as an answer is not
itself a rejection that is told (`Facts.Plain`); a store never answers so (`Facts.plain_ofStore`).
`decisions_told` puts this together, and `rejections_untold` shows that the three are reached.
-/

namespace Remit

namespace Refusal

/-- The rejections of a transfer that no record tells of. -/
def isUntold : Refusal → Bool
  | sameAccount | noOwnedAccount | multipleOwnedAccounts _ => true
  | _ => false

/-- Whether a refusal rejects a transfer and is told: it is of authorization or of a ceiling. -/
def isTold (r : Refusal) : Bool :=
  !r.isUntold && (r.family == .authorization || r.family == .limit)

end Refusal

/-- Whether a fault is a rejection that is told. -/
def Fault.isTold : Fault → Bool
  | refusal r => r.isTold
  | breakdown _ => false

namespace Act

variable {α β : Type} {a : Act α} {f : α → Act β} {noted : List LogRecord → Prop}

/-- What an act writes: a warning for a rejection that is told, nothing for any other fault, and if
it ends well what `noted` says. -/
structure Tells (noted : List LogRecord → Prop) (a : Act α) : Prop where
  ok : ∀ x, a.outcome = .ok x → noted a.logs
  told : ∀ e, a.outcome = .error e → e.isTold = true → ∃ m, a.logs = [⟨.app, .warning, m⟩]
  untold : ∀ e, a.outcome = .error e → e.isTold = false → a.logs = []

/-- A step that passes without a record. -/
abbrev TellsFaults (a : Act α) : Prop := a.Tells (· = [])

/-- After steps that pass without a record, the last one tells the whole. -/
theorem Tells.bind (ha : a.TellsFaults) (hf : ∀ x, (f x).Tells noted) : (a >>= f).Tells noted := by
  cases h : a.outcome with
  | error e =>
    have houtcome : (a >>= f).outcome = .error e := by
      rw [outcome_bind, h]
      rfl
    have hlogs := logs_bind_of_error (f := f) h
    constructor
    · intro x hx
      rw [houtcome] at hx
      cases hx
    · intro e' he' ht
      rw [houtcome] at he'
      cases he'
      rw [hlogs]
      exact ha.told e h ht
    · intro e' he' ht
      rw [houtcome] at he'
      cases he'
      rw [hlogs]
      exact ha.untold e h ht
  | ok x =>
    have houtcome : (a >>= f).outcome = (f x).outcome := by
      rw [outcome_bind, h]
      rfl
    have hlogs : (a >>= f).logs = (f x).logs := by
      rw [logs_bind_of_ok h, ha.ok x h, List.nil_append]
    exact ⟨fun y hy => hlogs ▸ (hf x).ok y (houtcome ▸ hy),
      fun e he ht => hlogs ▸ (hf x).told e (houtcome ▸ he) ht,
      fun e he ht => hlogs ▸ (hf x).untold e (houtcome ▸ he) ht⟩

theorem tells_pure (x : α) : (pure x : Act α).TellsFaults :=
  ⟨fun _ _ => rfl, nofun, nofun⟩

theorem tells_call (c : Call) : (call c).TellsFaults :=
  ⟨fun _ _ => rfl, nofun, nofun⟩

/-- An answer passes without a record, or fails with what is not told. -/
theorem tells_lift {x : Except Fault α} (h : ∀ e, x = .error e → e.isTold = false) :
    (lift x).TellsFaults := by
  refine ⟨fun _ _ => rfl, fun e he ht => ?_, fun _ _ _ => rfl⟩
  rw [h e he] at ht
  cases ht

theorem tells_liftBreakdown (x : Except Breakdown α) : (liftBreakdown x).TellsFaults := by
  refine tells_lift fun e he => ?_
  cases x with
  | ok x => cases he
  | error b =>
    cases he
    rfl

/-- A refusal without a warning is one that is not told. -/
theorem tells_refuse {r : Refusal} (h : r.isTold = false) : (refuse r : Act α).TellsFaults :=
  tells_lift fun e he => by cases he; exact h

end Act

/-! ## The steps of a decision -/

/-- No question is answered with a refusal, but for the source: a user who does not own exactly one
account has none. -/
structure Facts.Plain (facts : Facts) : Prop where
  source : ∀ r, facts.source = .error (.refusal r) →
    r = .noOwnedAccount ∨ ∃ n, r = .multipleOwnedAccounts n
  selfAccounts : ∀ r, facts.selfAccounts ≠ .error (.refusal r)
  candidates : ∀ type r, facts.candidates type ≠ .error (.refusal r)
  destinations : ∀ type r, facts.destinations type ≠ .error (.refusal r)
  transferLimit : ∀ account type r, facts.transferLimit account type ≠ .error (.refusal r)
  total : ∀ account type day r, facts.total account type day ≠ .error (.refusal r)

/-- What is never a refusal fails with what is not told. -/
theorem Fault.isTold_of_ne {α : Type} {x : Except Fault α} (h : ∀ r, x ≠ .error (.refusal r)) :
    ∀ e, x = .error e → e.isTold = false := by
  rintro (r | b) he
  · exact absurd he (h r)
  · rfl

/-- A request that cannot be read is not told. -/
theorem Request.isTold_of_transferInput {fields : Fields} {day : Date} {e : Fault}
    (h : transferInput fields day = .error e) : e.isTold = false := by
  rcases transferInput_cases fields day with ⟨errors, he⟩ | ⟨input, hi, -⟩
  · cases he.symm.trans h
    rfl
  · cases hi.symm.trans h

/-- A missing source is not told. -/
theorem Facts.Plain.isTold_of_source {facts : Facts} (h : facts.Plain) {e : Fault}
    (he : facts.source = .error e) : e.isTold = false := by
  cases e with
  | breakdown b => rfl
  | refusal r =>
    rcases h.source r he with rfl | ⟨n, rfl⟩
    · rfl
    · rfl

namespace Authorization

variable {facts : Facts} {user : User} {type : TransferType} {settings : LimitSettings}
  {source destination : AccountHandle} {input : TransferInput}

/-- A rejection after a warning is told by it. -/
theorem tells_reject {α : Type} {noted : List LogRecord → Prop} (warning : String) {r : Refusal}
    (h : r.isTold = true) : (reject warning r : Act α).Tells noted := by
  refine ⟨nofun, fun _ _ _ => ⟨warning, rfl⟩, fun e he ht => ?_⟩
  cases he
  exact absurd (h.symm.trans ht) (by decide)

/-- A destination that cannot be selected is told of. -/
theorem tells_selectDestination (candidates : List AccountHandle) (number : String) :
    (selectDestination candidates number).TellsFaults := by
  simp only [selectDestination]
  split
  · exact Act.tells_pure _
  · split <;> exact tells_reject _ rfl

/-- One account at both ends is the only rejection here that is not told. -/
theorem tells_checkMembership (h : facts.Plain) :
    (checkMembership facts user type source destination).TellsFaults := by
  refine (Act.tells_lift (Fault.isTold_of_ne h.selfAccounts)).bind fun self => ?_
  refine (Act.tells_call _).bind fun _ => ?_
  refine (Act.tells_lift (Fault.isTold_of_ne (h.destinations type))).bind fun destinations => ?_
  split
  · exact tells_reject _ rfl
  split
  · exact tells_reject _ rfl
  split
  · exact Act.tells_refuse rfl
  · exact Act.tells_pure _

/-- An amount above the ceiling of a beneficiary is told of, … -/
theorem tells_checkBeneficiaryLimit (h : facts.Plain) (amount : Decimal) :
    (checkBeneficiaryLimit facts destination amount).TellsFaults := by
  refine (Act.tells_call _).bind fun _ => ?_
  refine (Act.tells_lift (Fault.isTold_of_ne (h.transferLimit _ _))).bind fun limit => ?_
  refine (Act.tells_liftBreakdown _).bind fun exceeds => ?_
  split
  · exact tells_reject _ rfl
  · exact Act.tells_pure _

/-- … so is one above the ceiling of the day, … -/
theorem tells_checkDailyLimit (h : facts.Plain) :
    (checkDailyLimit facts settings source input).TellsFaults := by
  unfold checkDailyLimit
  split
  · refine (Act.tells_call _).bind fun _ => ?_
    refine (Act.tells_lift (Fault.isTold_of_ne (h.total _ _ _))).bind fun total => ?_
    refine (Act.tells_liftBreakdown _).bind fun consumed => ?_
    refine (Act.tells_liftBreakdown _).bind fun exceeds => ?_
    split
    · exact tells_reject _ rfl
    · exact Act.tells_pure _
  · exact Act.tells_pure _

/-- … and one above either. -/
theorem tells_checkLimits (h : facts.Plain) :
    (checkLimits facts settings type source destination input).TellsFaults := by
  cases type with
  | self => exact Act.tells_pure _
  | tpt => exact (tells_checkBeneficiaryLimit h _).bind fun _ => tells_checkDailyLimit h

/-- An instruction is told by one record of information. -/
theorem tells_authorize (h : facts.Plain) (user : User) (type : TransferType) (fields : Fields)
    (day : Date) (settings : LimitSettings) :
    (authorize facts user type fields day settings).Tells
      fun logs => ∃ m, logs = [⟨.app, .info, m⟩] := by
  refine (Act.tells_lift fun _ => Request.isTold_of_transferInput).bind fun input => ?_
  refine (Act.tells_lift fun _ => h.isTold_of_source).bind fun source => ?_
  refine (Act.tells_call _).bind fun _ => ?_
  refine (Act.tells_lift (Fault.isTold_of_ne (h.candidates type))).bind fun candidates => ?_
  refine (tells_selectDestination _ _).bind fun destination => ?_
  refine (tells_checkMembership h).bind fun _ => ?_
  refine (tells_checkLimits h).bind fun _ => ?_
  exact ⟨fun _ _ => ⟨_, rfl⟩, nofun, nofun⟩

end Authorization

/-! ## Decisions -/

/-- A store answers, or breaks down; it refuses a source only for the number of accounts. -/
theorem Facts.plain_ofStore (s : Store) (user : User) : (Facts.ofStore s user).Plain where
  source := by
    intro r hr
    change Template.sourceAccount s user = _ at hr
    rcases bind_eq_error.1 hr with hself | ⟨accounts, -, hsingle⟩
    · cases haccounts : Template.selfAccounts s user <;> rw [haccounts] at hself <;> cases hself
    · rcases accounts with _ | ⟨h, _ | ⟨h', hs⟩⟩ <;> cases hsingle
      · exact .inl rfl
      · exact .inr ⟨_, rfl⟩
  selfAccounts _ := by
    show Except.mapError _ _ ≠ _
    cases Template.selfAccounts s user <;> exact nofun
  candidates type _ := by
    show Except.mapError _ _ ≠ _
    cases Template.candidates s user type <;> exact nofun
  destinations type _ := by
    show Except.mapError _ _ ≠ _
    cases Template.destinations s user type <;> exact nofun
  transferLimit account type _ := by
    show Except.mapError _ _ ≠ _
    cases s.transferLimit user.id account type <;> exact nofun
  total account type day _ := by
    show Except.mapError _ _ ≠ _
    cases (s.bank.total account type day).map Value.decimal <;> exact nofun

/-- On a store, and on any plain answers, a decision is told: an instruction by exactly one record
of information, and a rejection by exactly one warning, but for three rejections that leave no
record at all. -/
theorem decisions_told {facts : Facts} (h : (∃ s u, facts = .ofStore s u) ∨ facts.Plain)
    (user : User) (type : TransferType) (fields : Fields) (day : Date) (settings : LimitSettings) :
    (∀ i, (authorize facts user type fields day settings).outcome = .ok i →
      ∃ m, (authorize facts user type fields day settings).logs = [⟨.app, .info, m⟩]) ∧
    ∀ r, (authorize facts user type fields day settings).outcome = .error (.refusal r) →
      r.family = .authorization ∨ r.family = .limit →
      ((r ≠ .sameAccount ∧ r ≠ .noOwnedAccount ∧ ∀ n, r ≠ .multipleOwnedAccounts n) →
        ∃ m, (authorize facts user type fields day settings).logs = [⟨.app, .warning, m⟩]) ∧
      (r = .sameAccount ∨ r = .noOwnedAccount ∨ (∃ n, r = .multipleOwnedAccounts n) →
        (authorize facts user type fields day settings).logs = []) := by
  have hplain : facts.Plain := by
    rcases h with ⟨s, u, rfl⟩ | h
    · exact Facts.plain_ofStore s u
    · exact h
  have htells := Authorization.tells_authorize hplain user type fields day settings
  refine ⟨htells.ok, fun r hr hfamily => ⟨fun hne => ?_, fun huntold => ?_⟩⟩
  · refine htells.told _ hr ?_
    have htold : r.isUntold = false := by
      cases r with
      | sameAccount => exact absurd rfl hne.1
      | noOwnedAccount => exact absurd rfl hne.2.1
      | multipleOwnedAccounts n => exact absurd rfl (hne.2.2 n)
      | _ => rfl
    simpa [Fault.isTold, Refusal.isTold, htold] using hfamily
  · refine htells.untold _ hr ?_
    rcases huntold with rfl | rfl | ⟨n, rfl⟩ <;> rfl

/-- The answers of the example refuse nothing. -/
theorem Facts.plain_torn : Facts.torn.Plain where
  source := nofun
  selfAccounts := nofun
  candidates _ := nofun
  destinations _ := nofun
  transferLimit _ _ := nofun
  total _ _ _ := nofun

/-- A transfer above the limit of its beneficiary is told, on answers that do not fit together. -/
theorem torn_told :
    Facts.torn.Plain ∧
    (authorize .torn ⟨7, []⟩ .tpt (Fields.torn.put "transferAmount" (.int 10)) ⟨2024, .march, 1⟩
      {}).outcome = .error (.refusal (.aboveBeneficiaryLimit (some 9))) ∧
    ∃ m, (authorize .torn ⟨7, []⟩ .tpt (Fields.torn.put "transferAmount" (.int 10))
      ⟨2024, .march, 1⟩ {}).logs = [⟨.app, .warning, m⟩] := by
  have hrefused : (authorize .torn ⟨7, []⟩ .tpt (Fields.torn.put "transferAmount" (.int 10))
      ⟨2024, .march, 1⟩ {}).outcome = .error (.refusal (.aboveBeneficiaryLimit (some 9))) := by cbv
  obtain ⟨-, hrejected⟩ := decisions_told (.inr Facts.plain_torn) ⟨7, []⟩ .tpt
    (Fields.torn.put "transferAmount" (.int 10)) ⟨2024, .march, 1⟩ {}
  refine ⟨Facts.plain_torn, hrefused, (hrejected _ hrefused (.inr rfl)).1 ⟨?_, ?_, ?_⟩⟩
  · intro h
    cases h
  · intro h
    cases h
  · intro n h
    cases h

/-- A store with one user and one account. -/
def Store.single : Store where
  bank := {
    offices := [⟨1, some "Main"⟩]
    clients := [⟨1, some 1, some "Cleo"⟩]
    mappings := [⟨1, some 7, some 1⟩]
    savings := [⟨10, some "B2", some 1, some 300⟩] }

/-- What a store decides about a transfer of user seven. -/
def Store.decide (s : Store) (type : TransferType) : Act Instruction :=
  authorize (.ofStore s ⟨7, []⟩) ⟨7, []⟩ type .torn ⟨2024, .march, 1⟩ {}

/-- A user without an account is rejected without a record, and so is a transfer from an account to
itself. -/
theorem rejections_untold :
    (((Store.decide {} .tpt).outcome = .error (.refusal .noOwnedAccount) ∧
      Refusal.noOwnedAccount.family = .authorization) ∧ (Store.decide {} .tpt).logs = []) ∧
    ((Store.single.decide .self).outcome = .error (.refusal .sameAccount) ∧
      Refusal.sameAccount.family = .authorization) ∧ (Store.single.decide .self).logs = [] := by
  have htells : ∀ (s : Store) type,
      (s.decide type).Tells fun logs => ∃ m, logs = [⟨.app, .info, m⟩] :=
    fun s type => Authorization.tells_authorize (Facts.plain_ofStore s _) _ _ _ _ _
  have hnone : (Store.decide {} .tpt).outcome = .error (.refusal .noOwnedAccount) := by cbv
  have hsame : (Store.single.decide .self).outcome = .error (.refusal .sameAccount) := by cbv
  exact ⟨⟨⟨hnone, rfl⟩, (htells {} .tpt).untold _ hnone rfl⟩, ⟨hsame, rfl⟩,
    (htells .single .self).untold _ hsame rfl⟩

end Remit
