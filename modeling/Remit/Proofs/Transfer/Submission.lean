import Remit.Proofs.Execution.Address
import Remit.Proofs.Transfer.ThirdParty
import Remit.Transfer.Submission

/-!
# What a submission sends

Deciding about a transfer sends nothing and leaves no record of use
(`Authorization.quiet_authorize`), and neither does reading the settings, which never fails
(`Settings.outcome_read`). A submission therefore sends what it sends after the decision: nothing
if the transfer is refused (`Submission.create_of_refused`), and the payload of the instruction
otherwise, once, whatever is answered (`Submission.create_of_authorized`).
`Submission.submit_spec` puts this together for a store and a well-formed base address.
-/

namespace Remit

/-! ## Deciding -/

namespace Authorization

variable {facts : Facts} {user : User} {type : TransferType} {settings : LimitSettings}
  {source destination : AccountHandle} {input : TransferInput}

/-- A rejection is quiet: its warning is a technical record. -/
theorem quiet_reject {α : Type} (warning : String) (r : Refusal) :
    (reject warning r : Act α).Quiet :=
  (Act.quiet_log _ _).bind fun _ => Act.quiet_refuse _

/-- Selecting the destination is quiet, … -/
theorem quiet_selectDestination (candidates : List AccountHandle) (number : String) :
    (selectDestination candidates number).Quiet := by
  simp only [selectDestination]
  split
  · exact Act.quiet_pure _
  · split <;> exact quiet_reject _ _

/-- … so is checking the two ends, … -/
theorem quiet_checkMembership : (checkMembership facts user type source destination).Quiet := by
  refine (Act.quiet_lift _).bind fun self => ?_
  refine (Act.quiet_call _).bind fun _ => ?_
  refine (Act.quiet_lift _).bind fun destinations => ?_
  split
  · exact quiet_reject _ _
  split
  · exact quiet_reject _ _
  split
  · exact Act.quiet_refuse _
  · exact Act.quiet_pure _

/-- … the ceiling of the beneficiary, … -/
theorem quiet_checkBeneficiaryLimit (amount : Decimal) :
    (checkBeneficiaryLimit facts destination amount).Quiet := by
  refine (Act.quiet_call _).bind fun _ => ?_
  refine (Act.quiet_lift _).bind fun limit => ?_
  refine (Act.quiet_liftBreakdown _).bind fun exceeds => ?_
  split
  · exact quiet_reject _ _
  · exact Act.quiet_pure _

/-- … the ceiling of the day, … -/
theorem quiet_checkDailyLimit : (checkDailyLimit facts settings source input).Quiet := by
  unfold checkDailyLimit
  split
  · refine (Act.quiet_call _).bind fun _ => ?_
    refine (Act.quiet_lift _).bind fun total => ?_
    refine (Act.quiet_liftBreakdown _).bind fun consumed => ?_
    refine (Act.quiet_liftBreakdown _).bind fun exceeds => ?_
    split
    · exact quiet_reject _ _
    · exact Act.quiet_pure _
  · exact Act.quiet_pure _

/-- … and both of them in turn. -/
theorem quiet_checkLimits :
    (checkLimits facts settings type source destination input).Quiet := by
  cases type with
  | self => exact Act.quiet_pure _
  | tpt =>
    exact (quiet_checkBeneficiaryLimit _).bind fun _ => quiet_checkDailyLimit

/-- Deciding neither records anything of use nor sends anything. -/
theorem quiet_authorize (facts : Facts) (user : User) (type : TransferType) (fields : Fields)
    (day : Date) (settings : LimitSettings) :
    (authorize facts user type fields day settings).Quiet := by
  refine (Act.quiet_lift _).bind fun input => ?_
  refine (Act.quiet_lift _).bind fun source => ?_
  refine (Act.quiet_call _).bind fun _ => ?_
  refine (Act.quiet_lift _).bind fun candidates => ?_
  refine (quiet_selectDestination _ _).bind fun destination => ?_
  refine quiet_checkMembership.bind fun _ => ?_
  refine quiet_checkLimits.bind fun _ => ?_
  exact (Act.quiet_log _ _).bind fun _ => Act.quiet_pure _

end Authorization

/-! ## Settings -/

namespace Settings

variable {α : Type} {read : String → Option α} {warning : String} {raw : Option String}

/-- A number that cannot be read is left out, which fails nothing. -/
theorem exists_outcome_readNumber (read : String → Option α) (warning : String)
    (raw : Option String) : ∃ o, (readNumber read warning raw).outcome = .ok o := by
  cases raw with
  | none => exact ⟨none, rfl⟩
  | some raw =>
    simp only [readNumber]
    split
    · exact ⟨none, rfl⟩
    split
    · exact ⟨_, rfl⟩
    · exact ⟨none, rfl⟩

/-- Reading a number from the environment is quiet. -/
theorem quiet_readNumber : (readNumber read warning raw).Quiet := by
  cases raw with
  | none => exact Act.quiet_pure _
  | some raw =>
    simp only [readNumber]
    split
    · exact Act.quiet_pure _
    split
    · exact Act.quiet_pure _
    · exact (Act.quiet_log _ _).bind fun _ => Act.quiet_pure _

/-- The settings that an environment holds. -/
def current (env : Environment) : Settings := (Settings.read env).outcome.toOption.getD {}

/-- The configuration of the daily ceiling in the settings. -/
def ceilings (settings : Settings) : LimitSettings where
  enabled := settings.dailyLimitEnabled
  cap := settings.dailyLimitAmount

/-- A text that was stripped of a character does not end with it. -/
theorem getLast?_stripEnd (c : Char) (text : String) :
    (Text.stripEnd c text).toList.getLast? ≠ some c := by
  rw [Text.stripEnd, String.toList_ofList, List.getLast?_reverse]
  intro h
  have hne := List.head?_dropWhile_not (· == c) text.toList.reverse
  rw [h] at hne
  simp at hne

/-- Reading the settings never fails, and strips the address of the slashes at its end. -/
theorem exists_outcome_read (env : Environment) : ∃ settings url,
    (Settings.read env).outcome = .ok settings ∧ settings.executionUrl = Text.stripEnd '/' url := by
  obtain ⟨amount, hamount⟩ := exists_outcome_readNumber Text.readInt?
    "Ignoring non-integer DAILY_TPT_LIMIT value: " (env.get? "DAILY_TPT_LIMIT")
  obtain ⟨timeout, htimeout⟩ := exists_outcome_readNumber Double.read?
    "Ignoring invalid TRANSFER_EXECUTION_TIMEOUT: " (env.get? "TRANSFER_EXECUTION_TIMEOUT")
  simp only [Settings.read, Act.outcome_bind, hamount, htimeout]
  exact ⟨_, _, rfl, rfl⟩

/-- The settings can always be read. -/
theorem outcome_read (env : Environment) : (Settings.read env).outcome = .ok (current env) := by
  obtain ⟨settings, _, h, -⟩ := exists_outcome_read env
  rw [current, h]
  rfl

/-- The address of the execution subsystem does not end with a slash. -/
theorem getLast?_executionUrl (env : Environment) :
    (current env).executionUrl.toList.getLast? ≠ some '/' := by
  obtain ⟨settings, url, h, hurl⟩ := exists_outcome_read env
  obtain rfl : current env = settings := Except.ok.inj ((outcome_read env).symm.trans h)
  rw [hurl]
  exact getLast?_stripEnd _ _

/-- Reading the settings is quiet. -/
theorem quiet_read (env : Environment) : (Settings.read env).Quiet := by
  refine quiet_readNumber.bind fun amount => ?_
  exact quiet_readNumber.bind fun timeout => Act.quiet_pure _

/-- The daily ceiling is configured as in the settings. -/
theorem outcome_limits (env : Environment) : (limits env).outcome = .ok (current env).ceilings := by
  simp only [limits, Act.outcome_bind, outcome_read]
  rfl

/-- Reading the settings of the daily ceiling is quiet. -/
theorem quiet_limits (env : Environment) : (limits env).Quiet := by
  refine (quiet_read env).bind fun _ => ?_
  exact (quiet_read env).bind fun _ => Act.quiet_pure _

end Settings

/-! ## Submitting -/

namespace Submission

variable {facts : Facts} {user : User} {type : Value} {fields : Fields} {day : Date}
  {env : Environment} {i : Instruction}

/-- The decision about a transfer of a kind that a value names, with a configuration of the daily
ceiling. -/
def decision (facts : Facts) (user : User) (type : Value) (fields : Fields) (day : Date)
    (settings : LimitSettings) : Except Fault Instruction := do
  let type ← (TransferType.ofValue type).mapError .breakdown
  (Remit.authorize facts user type fields day settings).outcome

/-- The submission of a transfer as a change of a store. -/
def submit (user : User) (type : Value) (fields : Fields) (day : Date) (env : Environment)
    (answer : Execution.Answer) : Update Value := fun s =>
  (create (.ofStore s user) user type fields day env answer, s)

/-- A transfer is decided with the daily ceiling of the settings. -/
theorem outcome_authorizeNow : (authorizeNow facts user type fields day env).outcome =
    decision facts user type fields day (Settings.current env).ceilings := by
  simp only [authorizeNow, Act.outcome_bind, Settings.outcome_limits, Act.outcome_liftBreakdown]
  rfl

/-- Authorizing is quiet. -/
theorem quiet_authorizeNow : (authorizeNow facts user type fields day env).Quiet := by
  refine (Settings.quiet_limits env).bind fun limits => ?_
  refine (Act.quiet_liftBreakdown _).bind fun type => ?_
  exact Authorization.quiet_authorize _ _ _ _ _ _

/-- Reading an answer neither records anything of use nor sends anything. -/
theorem quiet_readAnswer (answer : Execution.Answer) : (Execution.readAnswer answer).Quiet := by
  cases answer with
  | invalidAddress => exact Act.quiet_breakDown _
  | failure message => exact (Act.quiet_log _ _).bind fun _ => Act.quiet_refuse _
  | response status body =>
    simp only [Execution.readAnswer]
    split
    · exact (Act.quiet_log _ _).bind fun _ => Act.quiet_refuse _
    · exact Act.quiet_liftBreakdown _

/-- An execution sends one request, whatever is answered. -/
theorem sent_execute (base : String) (timeout : Double) (body : Value) (answer : Execution.Answer) :
    (Execution.execute base timeout body answer).sent =
      [⟨Address.below base Execution.path, timeout, body⟩] := by
  have hrecord : (Act.record (.sent ⟨Address.below base Execution.path, timeout, body⟩)).outcome =
      .ok () := rfl
  rw [Execution.execute, Act.sent_bind_of_ok hrecord, (quiet_readAnswer answer).sent_eq,
    List.append_nil]
  rfl

/-- A refused transfer is not sent, and its submission fails as the decision does. -/
theorem create_of_refused (answer : Execution.Answer) {e : Fault}
    (h : decision facts user type fields day (Settings.current env).ceilings = .error e) :
    (create facts user type fields day env answer).sent = [] ∧
    (create facts user type fields day env answer).outcome = .error e := by
  rw [← outcome_authorizeNow] at h
  constructor
  · rw [create, Act.sent_bind_of_ok (Settings.outcome_read env), (Settings.quiet_read env).sent_eq,
      Act.sent_bind_of_error h, quiet_authorizeNow.sent_eq, List.append_nil]
  · simp only [create, Act.outcome_bind, Settings.outcome_read, h]
    rfl

/-- An authorized transfer is sent once, and its submission ends as the answer says. -/
theorem create_of_authorized (answer : Execution.Answer)
    (h : decision facts user type fields day (Settings.current env).ceilings = .ok i) :
    (create facts user type fields day env answer).sent =
      [⟨Address.below (Settings.current env).executionUrl Execution.path,
        (Settings.current env).executionTimeout, i.payload.toValue⟩] ∧
    (create facts user type fields day env answer).outcome =
      (Execution.readAnswer answer).outcome := by
  rw [← outcome_authorizeNow] at h
  constructor
  · rw [create, Act.sent_bind_of_ok (Settings.outcome_read env), (Settings.quiet_read env).sent_eq,
      Act.sent_bind_of_ok h, quiet_authorizeNow.sent_eq, List.nil_append, List.nil_append,
      Act.sent_bind_of_silent fun result => rfl, sent_execute]
  · have hexecute : ∀ base timeout body,
        (Execution.execute base timeout body answer).outcome =
          (Execution.readAnswer answer).outcome := fun _ _ _ => Act.outcome_bind _ _
    simp only [create, Act.outcome_bind, Settings.outcome_read, h, hexecute]
    cases (Execution.readAnswer answer).outcome <;> rfl

/-- A submission on a store leaves the store as it is, sends nothing if the transfer is refused, and
fails then as the decision does. An authorized transfer is sent once, to the path of transfers below
the base address, with the payload of the instruction; how the submission ends is up to the answer,
and nothing is sent again for it. -/
theorem submit_spec (s : Store) (user : User) (type : Value) (fields : Fields) (day : Date)
    (env : Environment) (answer : Execution.Answer) {base : Address.Parts} (hbase : base.IsBase)
    (hurl : (Settings.current env).executionUrl = String.ofList base.text) :
    ∃ a, submit user type fields day env answer s = (a, s) ∧
    (∀ e, decision (.ofStore s user) user type fields day (Settings.current env).ceilings =
        .error e → a.sent = [] ∧ a.outcome = .error e) ∧
    ∀ i, decision (.ofStore s user) user type fields day (Settings.current env).ceilings = .ok i →
      a.sent = [⟨String.ofList base.usual.text ++ "/accounttransfers",
        (Settings.current env).executionTimeout, i.payload.toValue⟩] ∧
      a.outcome = (Execution.readAnswer answer).outcome := by
  refine ⟨_, rfl, fun e he => create_of_refused answer he, fun i hi => ?_⟩
  obtain ⟨hsent, houtcome⟩ := create_of_authorized answer hi
  have hend : base.text.getLast? ≠ some '/' := by
    have h := Settings.getLast?_executionUrl env
    rwa [hurl, String.toList_ofList] at h
  have hbelow := hbase.below_text hend Execution.path (by decide)
  have hpath : String.ofList base.usual.text ++ "/" ++ Execution.path =
      String.ofList base.usual.text ++ "/accounttransfers" := by
    rw [String.append_assoc]
    rfl
  rw [hurl, hbelow, hpath] at hsent
  exact ⟨hsent, houtcome⟩

/-- The base address of the settings where none is configured. -/
def localBase : Address.Parts where
  scheme := "http".toList
  host := "localhost".toList
  number := some 8443
  path := "/v1".toList

/-- An amount within the limit is sent once, though the subsystem cannot be reached; an amount above
it is not sent. -/
theorem submit_sample :
    localBase.IsBase ∧ (Settings.current []).executionUrl = String.ofList localBase.text ∧
    (∃ a, submit ⟨7, []⟩ (.text "tpt") (ThirdParty.sampleRequest "50") ⟨2024, .march, 1⟩ []
        (.failure "down") ThirdParty.sample = (a, ThirdParty.sample) ∧
      a.sent.map (·.url) = ["http://localhost:8443/v1/accounttransfers"] ∧
      a.outcome = .error (.refusal (.notExecuted none "down"))) ∧
    ∃ a, submit ⟨7, []⟩ (.text "tpt") (ThirdParty.sampleRequest "150") ⟨2024, .march, 1⟩ []
        (.failure "down") ThirdParty.sample = (a, ThirdParty.sample) ∧
      a.sent = [] ∧ a.outcome = .error (.refusal (.aboveBeneficiaryLimit (some 100))) := by
  have hbase : localBase.IsBase :=
    ⟨by decide, .inl ⟨by decide, by decide⟩, by simp [localBase], by decide, by decide, by decide⟩
  have hurl : (Settings.current []).executionUrl = String.ofList localBase.text := by
    decide +kernel
  refine ⟨hbase, hurl, ?_, ?_⟩
  · obtain ⟨a, ha, -, hauthorized⟩ := submit_spec ThirdParty.sample ⟨7, []⟩ (.text "tpt")
      (ThirdParty.sampleRequest "50") ⟨2024, .march, 1⟩ [] (.failure "down") hbase hurl
    obtain ⟨hsent, houtcome⟩ := hauthorized {
      fromOfficeId := some 1, fromClientId := some 1, fromAccountId := some 10,
      fromAccountType := 2, toOfficeId := some 1, toClientId := some 2, toAccountId := some 20,
      toAccountType := 2, amount := .ofInt 50, day := ⟨2024, .march, 1⟩, description := "rent" }
      (by cbv)
    refine ⟨a, ha, ?_, houtcome⟩
    rw [hsent]
    decide +kernel
  · obtain ⟨a, ha, hrefused, -⟩ := submit_spec ThirdParty.sample ⟨7, []⟩ (.text "tpt")
      (ThirdParty.sampleRequest "150") ⟨2024, .march, 1⟩ [] (.failure "down") hbase hurl
    exact ⟨a, ha, hrefused _ (by cbv)⟩

end Submission

end Remit
