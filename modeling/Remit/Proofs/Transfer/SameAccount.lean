import Mathlib
import Remit.Proofs.Transfer.Accounts
import Remit.Proofs.Transfer.Authorization

/-!
# The two ends of a transfer

No transfer goes from an account to itself, where account, kind, client and office make up an
account (`authorize_ends_differ`). The client and the office of a destination are those that were
stored with the beneficiary, while those of the source are read from the bank. So the two ends can
have one number and one kind, but only if the beneficiary's row is `Outdated`: the user owns its
account under another client or office by now. `authorize_moved` is such a transfer.
-/

namespace Remit

/-- A row names an account that a user owns, with a client or an office that are not those of the
account any more. -/
def BeneficiaryRow.Outdated (r : BeneficiaryRow) (b : Bank) (user : Int) : Prop :=
  ∃ h, b.Owns user h ∧ h.accountId = r.accountId ∧ h.accountType = r.accountType ∧
    (h.clientId, h.officeId) ≠ (r.clientId, r.officeId)

/-- A row is outdated if it differs from an owned handle of its account. -/
theorem BeneficiaryRow.outdated_of_key_ne {r : BeneficiaryRow} {b : Bank} {user : Int}
    {h : AccountHandle} (ho : b.Owns user h) (hid : h.accountId = r.accountId)
    (htype : h.accountType = r.accountType) (hkey : h.key ≠ r.handle.key) : r.Outdated b user := by
  refine ⟨h, ho, hid, htype, fun hend => hkey ?_⟩
  obtain ⟨hclient, hoffice⟩ := Prod.mk.inj hend
  simp only [AccountHandle.key, handle, hid, htype, hclient, hoffice]

/-- The end that an instruction takes money from. -/
def Instruction.fromKey (i : Instruction) : Int × Option Int × Option Int × Option Int :=
  (i.fromAccountType, i.fromAccountId, i.fromClientId, i.fromOfficeId)

/-- The end that an instruction gives money to. -/
def Instruction.toKey (i : Instruction) : Int × Option Int × Option Int × Option Int :=
  (i.toAccountType, i.toAccountId, i.toClientId, i.toOfficeId)

variable {s : Store} {user : User} {type : TransferType} {fields : Fields} {day : Date}
  {settings : LimitSettings} {source destination : AccountHandle} {input : TransferInput}

/-- A user with one account has no other account to transfer to. -/
theorem not_passed_self :
    ¬ Passed (.ofStore s user) .self fields day settings source destination input := by
  intro h
  obtain ⟨hself, -⟩ := Template.sourceAccount_eq_ok h.taken
  obtain ⟨hs, hdestinations, hin⟩ := h.offered
  obtain rfl : [source] = hs := Except.ok.inj (hself.symm.trans (mapError_eq_ok.1 hdestinations))
  obtain ⟨h', hm, hkey⟩ := AccountHandle.isIn_iff.1 hin
  obtain rfl := List.mem_singleton.1 hm
  exact h.distinct hkey.symm

/-- A destination that is offered is the account of an active row of the user. -/
theorem Passed.exists_row
    (h : Passed (.ofStore s user) .tpt fields day settings source destination input) :
    ∃ r ∈ s.beneficiaries, r.isActiveOf user.id = true ∧ destination.key = r.handle.key := by
  obtain ⟨hs, hdestinations, hin⟩ := h.offered
  exact Template.exists_of_isIn_thirdPartyDestinations (mapError_eq_ok.1 hdestinations) hin

/-- The ends of an authorized transfer differ. If they have one account number and kind, the
transfer goes to a beneficiary of the user whose row is outdated. -/
theorem authorize_ends_differ {i : Instruction}
    (h : (authorize (.ofStore s user) user type fields day settings).outcome = .ok i) :
    i.fromKey ≠ i.toKey ∧
    ((i.fromAccountId, i.fromAccountType) = (i.toAccountId, i.toAccountType) →
      type = .tpt ∧ ∃ r ∈ s.beneficiaries, r.isActiveOf user.id = true ∧ i.toKey = r.handle.key ∧
        r.Outdated s.bank user.id) := by
  obtain ⟨source, destination, input, hp, rfl⟩ := outcome_authorize_eq_ok.1 h
  refine ⟨hp.distinct, fun heq => ?_⟩
  cases type with
  | self => exact (not_passed_self hp).elim
  | tpt =>
    obtain ⟨r, hr, ha, hkey⟩ := hp.exists_row
    obtain ⟨-, howns⟩ := Template.sourceAccount_eq_ok hp.taken
    obtain ⟨hid, htype⟩ := Prod.mk.inj heq
    have hid' : destination.accountId = r.accountId := congrArg (·.2.1) hkey
    have htype' : destination.accountType = r.accountType := congrArg Prod.fst hkey
    exact ⟨rfl, r, hr, ha, hkey, BeneficiaryRow.outdated_of_key_ne howns (hid.trans hid')
      (htype.trans htype') (hkey ▸ hp.distinct)⟩

/-- A user whose client has moved to another office since the own account was saved as a
beneficiary. -/
def Store.moved : Store where
  beneficiaries := [
    { id := 1, userId := 7, name := "Me", accountName := "Cleo", institutionName := "LOCAL",
      accountNumber := "A1", accountId := some 10, clientId := some 1, officeId := some 2,
      accountType := 2 }]
  bank := {
    offices := [⟨1, some "Main"⟩, ⟨2, some "Old"⟩]
    clients := [⟨1, some 1, some "Cleo"⟩]
    mappings := [⟨1, some 7, some 1⟩]
    savings := [⟨10, some "A1", some 1, some 300⟩] }

/-- The request for a transfer to that beneficiary. -/
def Fields.toMoved : Fields :=
  [("toAccountNumber", .text "A1"), ("transferAmount", .text "5"),
    ("transferDescription", .text "d")]

/-- The instruction for it goes from an account to itself, between two offices. -/
def Instruction.toMoved : Instruction where
  fromOfficeId := some 1
  fromClientId := some 1
  fromAccountId := some 10
  fromAccountType := 2
  toOfficeId := some 2
  toClientId := some 1
  toAccountId := some 10
  toAccountType := 2
  amount := .ofInt 5
  day := ⟨2024, .march, 1⟩
  description := "d"

/-- Account number and kind alone do not tell the ends of an authorized transfer apart. -/
theorem authorize_moved :
    (authorize (.ofStore .moved ⟨7, []⟩) ⟨7, []⟩ .tpt .toMoved ⟨2024, .march, 1⟩ {}).outcome =
      .ok .toMoved ∧
    (Instruction.toMoved.fromAccountId, Instruction.toMoved.fromAccountType) =
      (Instruction.toMoved.toAccountId, Instruction.toMoved.toAccountType) :=
  ⟨by cbv, rfl⟩

/-- The ends of that transfer differ in their office, and the row behind it is outdated. -/
theorem moved_outdated :
    Instruction.toMoved.fromKey ≠ Instruction.toMoved.toKey ∧
    ∃ r ∈ Store.moved.beneficiaries, r.isActiveOf 7 = true ∧
      Instruction.toMoved.toKey = r.handle.key ∧ r.Outdated Store.moved.bank 7 := by
  have houtcome : (authorize (.ofStore .moved ⟨7, []⟩) ⟨7, []⟩ .tpt .toMoved ⟨2024, .march, 1⟩
      {}).outcome = .ok .toMoved := by
    cbv
  obtain ⟨hdiffer, houtdated⟩ := authorize_ends_differ houtcome
  exact ⟨hdiffer, (houtdated rfl).2⟩

end Remit
