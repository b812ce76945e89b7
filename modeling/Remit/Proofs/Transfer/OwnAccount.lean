import Remit.Proofs.Transfer.Questions
import Remit.Proofs.Transfer.ThirdParty

/-!
# Transfers to an own account

The ceilings hold for third parties only, so no instruction may come from a transfer to an own
account. None does: the source is the only account of the user, and so is every candidate for the
destination. `OwnAccount.Denied` has one constructor for each reason to fail, in the order in which
the reasons count, and one of them always applies (`outcome_of_denied`, `exists_denied`).

The kind of a transfer is given as a text, and a text names the own account unless it names a third
party. Whatever the text, every instruction has passed both ceilings
(`authorize_text_within_ceilings`). All reasons but one are refusals: the number of a user may be
too wide for the tables (`outcome_of_wide_user`).
-/

namespace Remit

namespace OwnAccount

section
variable (s : Store) (user : User) (fields : Fields) (day : Date)

/-- The reasons to deny a transfer to an own account. Each one supposes that those before it do not
apply. -/
inductive Denied : Fault → Prop where
  | request {errors}
      (hr : Request.transferInput fields day = .error (.refusal (.invalidRequest errors))) :
      Denied (.refusal (.invalidRequest errors))
  | wideUser {input} (hr : Request.transferInput fields day = .ok input)
      (hu : fitsColumn user.id = false) : Denied (.breakdown .integerTooWide)
  | noAccount {input} (hr : Request.transferInput fields day = .ok input)
      (hu : fitsColumn user.id = true) (ho : ∀ h, ¬ s.bank.Owns user.id h) :
      Denied (.refusal .noOwnedAccount)
  | severalAccounts {input hs} (hr : Request.transferInput fields day = .ok input)
      (hu : fitsColumn user.id = true) (ho : AccountHandle.IsSetOf hs (s.bank.Owns user.id))
      (hl : 2 ≤ hs.length) : Denied (.refusal (.multipleOwnedAccounts hs.length))
  | unknownNumber {source input} (hr : Request.transferInput fields day = .ok input)
      (ho : Template.selfAccounts s user = .ok [source])
      (hn : source.accountNumber ≠ some input.toAccountNumber) :
      Denied (.refusal (.invalidDestination Authorization.notFoundReason))
  | sameAccount {source input} (hr : Request.transferInput fields day = .ok input)
      (ho : Template.selfAccounts s user = .ok [source])
      (hn : source.accountNumber = some input.toAccountNumber) : Denied (.refusal .sameAccount)

end

variable {s : Store} {user : User} {fields : Fields} {day : Date} {settings : LimitSettings}
  {source : AccountHandle} {input : TransferInput}

/-- The single own account of a user is an account of this system. -/
theorem isResolved_of_selfAccounts (ho : Template.selfAccounts s user = .ok [source]) :
    source.isResolved = true := by
  have hsource : Template.sourceAccount s user = .ok source := by
    rw [Template.sourceAccount, ho]
    rfl
  exact (Template.sourceAccount_eq_ok hsource).2.isResolved

/-- The only account of a user is also the only candidate for the destination. -/
theorem outcome_of_single (settings : LimitSettings)
    (hr : Request.transferInput fields day = .ok input)
    (ho : Template.selfAccounts s user = .ok [source]) :
    (authorize (.ofStore s user) user .self fields day settings).outcome =
      (Authorization.selectDestination [source] input.toAccountNumber).outcome >>=
        fun destination =>
      (Authorization.checkMembership (.ofStore s user) user .self source destination).outcome >>=
        fun _ => .ok (.between source destination input) := by
  have hsorted : AccountHandle.sorted [source] = [source] := List.mergeSort_singleton _
  have hcandidates : Template.candidates s user .self = .ok [source] := by
    rw [Template.candidates, ho]
    exact congrArg Except.ok hsorted
  rw [outcome_authorize, hr]
  simp only [Facts.ofStore, Template.sourceAccount, hcandidates, ho]
  rfl

/-- What is denied fails for its reason. -/
theorem outcome_of_denied {e : Fault} (h : Denied s user fields day e) :
    (authorize (.ofStore s user) user .self fields day settings).outcome = .error e := by
  cases h with
  | request hr => exact outcome_authorize_of_unreadable hr
  | wideUser hr hu =>
    exact outcome_authorize_of_no_source hr (Template.sourceAccount_of_not_fits hu)
  | noAccount hr hu ho =>
    exact outcome_authorize_of_no_source hr (Template.sourceAccount_of_none hu ho)
  | severalAccounts hr hu ho hl =>
    exact outcome_authorize_of_no_source hr (Template.sourceAccount_of_several hu ho hl)
  | @unknownNumber source input hr ho hn =>
    rw [outcome_of_single settings hr ho, Authorization.outcome_selectDestination_of_unknown]
    · rfl
    · exact fun c hc => List.mem_singleton.1 hc ▸ hn
  | @sameAccount source input hr ho hn =>
    have hself : (Facts.ofStore s user).selfAccounts = .ok [source] :=
      congrArg (Except.mapError Fault.breakdown) ho
    have hdestinations : (Facts.ofStore s user).destinations .self = .ok [source] := hself
    have hin : source.isIn [source] = true := AccountHandle.isIn_of_mem List.mem_cons_self
    have hselected : (Authorization.selectDestination [source] input.toAccountNumber).outcome =
        .ok source :=
      Authorization.outcome_selectDestination_of_some
        (by simp [hn, isResolved_of_selfAccounts ho])
    rw [outcome_of_single settings hr ho, hselected]
    show (Authorization.checkMembership _ user .self source source).outcome >>= _ = _
    rw [Authorization.outcome_checkMembership_of_same hself hin hdestinations hin rfl]
    rfl

/-- There is always a reason to deny a transfer to an own account. -/
theorem exists_denied (s : Store) (user : User) (fields : Fields) (day : Date) :
    ∃ e, Denied s user fields day e := by
  rcases Request.transferInput_cases fields day with ⟨errors, hr⟩ | ⟨input, hr, -⟩
  · exact ⟨_, .request hr⟩
  cases hu : fitsColumn user.id with
  | false => exact ⟨_, .wideUser hr hu⟩
  | true =>
    obtain ⟨hs, hself, ho⟩ := Template.selfAccounts_eq (s := s) hu
    match hs, hself, ho with
    | [], _, ho =>
      refine ⟨_, .noAccount hr hu fun h hh => ?_⟩
      obtain ⟨_, hm, -⟩ := ho.complete h hh
      cases hm
    | [source], hself, _ =>
      by_cases hn : source.accountNumber = some input.toAccountNumber
      · exact ⟨_, .sameAccount hr hself hn⟩
      · exact ⟨_, .unknownNumber hr hself hn⟩
    | _ :: _ :: _, _, ho => exact ⟨_, .severalAccounts hr hu ho (by simp)⟩

end OwnAccount

open OwnAccount in
/-- No way around the ceilings: a kind that does not name a third party leads to one of the reasons
of `OwnAccount.Denied`, and never to an instruction. So every instruction is for a third party and
keeps below both ceilings. -/
theorem authorize_text_within_ceilings (s : Store) (user : User) (text : String) (fields : Fields)
    (day : Date) (settings : LimitSettings) :
    (TransferType.ofText text = .self → ∃ e, Denied s user fields day e ∧
      (authorize (.ofStore s user) user (.ofText text) fields day settings).outcome = .error e) ∧
    ∀ i, (authorize (.ofStore s user) user (.ofText text) fields day settings).outcome = .ok i →
      TransferType.ofText text = .tpt ∧ ∃ source destination input,
        i = .between source destination input ∧
        WithinLimit (.ofStore s user) destination input.amount ∧
        WithinDay (.ofStore s user) settings source input := by
  obtain ⟨e, he⟩ := exists_denied s user fields day
  refine ⟨fun htype => ⟨e, he, ?_⟩, fun i h => ?_⟩
  · rw [htype, outcome_of_denied he]
  · cases htype : TransferType.ofText text with
    | self =>
      rw [htype, outcome_of_denied he] at h
      cases h
    | tpt =>
      rw [htype] at h
      obtain ⟨source, destination, input, hp, rfl⟩ := outcome_authorize_eq_ok.1 h
      exact ⟨rfl, source, destination, input, rfl, hp.withinCeilings⟩

namespace OwnAccount

/-- A request of five units for an account number. -/
def sampleRequest (number : String) : Fields :=
  [("toAccountNumber", .text number), ("transferAmount", .text "5"),
    ("transferDescription", .text "rent")]

end OwnAccount

open ThirdParty OwnAccount in
/-- A transfer to the own account is denied, and one to a third party within the limit is not. -/
theorem sample_text_within_ceilings :
    TransferType.ofText "Self" = .self ∧
    (∃ e, Denied sample ⟨7, []⟩ (OwnAccount.sampleRequest "A1") ⟨2024, .march, 1⟩ e ∧
      (authorize (.ofStore sample ⟨7, []⟩) ⟨7, []⟩ (.ofText "Self")
        (OwnAccount.sampleRequest "A1") ⟨2024, .march, 1⟩ {}).outcome = .error e) ∧
    ∃ i, (authorize (.ofStore sample ⟨7, []⟩) ⟨7, []⟩ (.ofText " TPT ")
        (OwnAccount.sampleRequest "B1") ⟨2024, .march, 1⟩ {}).outcome = .ok i ∧
      ∃ source destination input, i = .between source destination input ∧
        WithinLimit (.ofStore sample ⟨7, []⟩) destination input.amount := by
  obtain ⟨hself, -⟩ := authorize_text_within_ceilings sample ⟨7, []⟩ "Self"
    (OwnAccount.sampleRequest "A1") ⟨2024, .march, 1⟩ {}
  obtain ⟨-, hgranted⟩ := authorize_text_within_ceilings sample ⟨7, []⟩ " TPT "
    (OwnAccount.sampleRequest "B1") ⟨2024, .march, 1⟩ {}
  have htype : TransferType.ofText " TPT " = .tpt := by decide
  have hi : ∃ i, (authorize (.ofStore sample ⟨7, []⟩) ⟨7, []⟩ (.ofText " TPT ")
      (OwnAccount.sampleRequest "B1") ⟨2024, .march, 1⟩ {}).outcome = .ok i := by
    rw [htype]
    exact ⟨{
      fromOfficeId := some 1, fromClientId := some 1, fromAccountId := some 10,
      fromAccountType := 2, toOfficeId := some 1, toClientId := some 2, toAccountId := some 20,
      toAccountType := 2, amount := .ofInt 5, day := ⟨2024, .march, 1⟩, description := "rent" },
      by cbv⟩
  obtain ⟨i, hi⟩ := hi
  obtain ⟨-, source, destination, input, hbetween, hlimit, -⟩ := hgranted i hi
  exact ⟨by decide, hself (by decide), i, hi, source, destination, input, hbetween, hlimit⟩

/-- The number of a user may be too wide for the tables; then even a readable request is not
refused, it breaks down. -/
theorem outcome_of_wide_user :
    TransferType.ofText "self" = .self ∧
    (authorize (.ofStore {} ⟨9223372036854775808, []⟩) ⟨9223372036854775808, []⟩ .self
      (OwnAccount.sampleRequest "A1") ⟨2024, .march, 1⟩ {}).outcome =
        .error (.breakdown .integerTooWide) ∧
    ∀ r, (authorize (.ofStore {} ⟨9223372036854775808, []⟩) ⟨9223372036854775808, []⟩ .self
      (OwnAccount.sampleRequest "A1") ⟨2024, .march, 1⟩ {}).outcome ≠ .error (.refusal r) := by
  have houtcome : (authorize (.ofStore {} ⟨9223372036854775808, []⟩) ⟨9223372036854775808, []⟩ .self
      (OwnAccount.sampleRequest "A1") ⟨2024, .march, 1⟩ {}).outcome =
        .error (.breakdown .integerTooWide) := by
    cbv
  refine ⟨by decide, houtcome, fun r h => ?_⟩
  rw [houtcome] at h
  cases h

end Remit
