import Remit.Transfer.Basic
import Remit.Store.Basic
import Remit.User

/-!
# Accounts to transfer from and to

Which accounts a user may name. The user's own accounts are those of the bank (`selfAccounts`), and
exactly one of them is the source of every transfer (`sourceAccount`). Third parties are the
accounts of the active beneficiaries; those without a resolved account are candidates that no
transfer may go to.
-/

namespace Remit.Template

/-- The accounts that a user owns. -/
def selfAccounts (s : Store) (user : User) : Except Breakdown (List AccountHandle) :=
  AccountHandle.distinct <$> s.bank.ownedAccounts user.id

/-- The single one of a user's accounts. -/
def single (accounts : List AccountHandle) : Except Refusal AccountHandle :=
  match accounts with
  | [] => .error .noOwnedAccount
  | [h] => .ok h
  | hs => .error (.multipleOwnedAccounts hs.length)

/-- The account that transfers are taken from. -/
def sourceAccount (s : Store) (user : User) : Except Fault AccountHandle := do
  let accounts ← (selfAccounts s user).mapError .breakdown
  (single accounts).mapError .refusal

/-- The accounts of a user's active beneficiaries, resolved or not. -/
def beneficiaryAccounts (s : Store) (user : User) : Except Breakdown (List AccountHandle) :=
  List.map Beneficiary.handle <$> s.listActive user.id

/-- The resolved accounts of a user's active beneficiaries. -/
def thirdPartyDestinations (s : Store) (user : User) : Except Breakdown (List AccountHandle) :=
  (fun hs => AccountHandle.distinct (hs.filter (·.isResolved))) <$> beneficiaryAccounts s user

/-- Every destination that a user may name. -/
def candidates (s : Store) (user : User) : TransferType → Except Breakdown (List AccountHandle)
  | .tpt => beneficiaryAccounts s user
  | .self => AccountHandle.sorted <$> selfAccounts s user

/-- The destinations that a user may transfer to. -/
def destinations (s : Store) (user : User) : TransferType → Except Breakdown (List AccountHandle)
  | .tpt => thirdPartyDestinations s user
  | .self => selfAccounts s user

/-- The accounts to choose from in a transfer form, each side in order. -/
def ofStore (s : Store) (user : User) (type : TransferType) : Except Breakdown Template := do
  let fromAccounts ← selfAccounts s user
  let toAccounts ← destinations s user type
  return ⟨AccountHandle.sorted fromAccounts, AccountHandle.sorted toAccounts⟩

end Remit.Template
