import Remit.Account.Kind

/-!
# Account handles

An `AccountHandle` names one usable account. The account, its kind, its client and its office
identify it (`AccountHandle.key`); the number and the names are there for display, so two handles
that differ only in these are one account (`AccountHandle.same`). Sets of accounts are lists in
which no account occurs twice (`distinct`), shown in the order of their keys (`sorted`).
-/

namespace Remit

/-- One usable account; a handle without an account number of this system is unresolved. -/
structure AccountHandle where
  accountId : Option Int
  accountType : Int
  clientId : Option Int
  officeId : Option Int
  accountNumber : Option String := none
  clientName : Option String := none
  officeName : Option String := none
  deriving DecidableEq, Repr, Inhabited

namespace AccountHandle

/-- Whether the handle points at an account of this system. -/
def isResolved (h : AccountHandle) : Bool := h.accountId.isSome

/-- What identifies an account. -/
def key (h : AccountHandle) : Int × Option Int × Option Int × Option Int :=
  (h.accountType, h.accountId, h.clientId, h.officeId)

/-- Whether two handles name one account. -/
def same (h h' : AccountHandle) : Bool := h.key == h'.key

/-- Whether an account is among others. -/
def isIn (h : AccountHandle) (hs : List AccountHandle) : Bool := hs.any h.same

/-- The accounts of a list, the first handle of each. -/
def distinct (hs : List AccountHandle) : List AccountHandle :=
  hs.foldl (fun seen h => if h.isIn seen then seen else seen ++ [h]) []

/-- Whether one optional number comes before another or equals it; none comes first. -/
def idLe : Option Int → Option Int → Bool
  | none, _ => true
  | some _, none => false
  | some i, some j => i ≤ j

/-- The order of handles: by kind, then by account, client and office. -/
def le (h h' : AccountHandle) : Bool :=
  if h.accountType != h'.accountType then h.accountType < h'.accountType
  else if h.accountId != h'.accountId then idLe h.accountId h'.accountId
  else if h.clientId != h'.clientId then idLe h.clientId h'.clientId
  else idLe h.officeId h'.officeId

/-- The handles in order; equal ones stay as they were. -/
def sorted (hs : List AccountHandle) : List AccountHandle := hs.mergeSort le

/-- Two handles are the same exactly if they have one key. -/
@[simp] theorem same_iff {h h' : AccountHandle} : h.same h' = true ↔ h.key = h'.key := by
  simp [same]

/-- A handle is in a list exactly if one of its key is. -/
theorem isIn_iff {h : AccountHandle} {hs : List AccountHandle} :
    h.isIn hs = true ↔ ∃ h' ∈ hs, h.key = h'.key := by
  simp [isIn]

end AccountHandle

end Remit
