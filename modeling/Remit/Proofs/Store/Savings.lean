import Remit.Proofs.Store.Rows

/-!
# Which savings account a number stands for

An account number stands for the open savings account with the lowest id (`Bank.IsFirstOpen`), and
it is resolved if the client that holds this account exists (`Bank.Resolves`). What is found by a
number is the account that it stands for (`Bank.isFirstOpen_of_findSavings`); in a bank whose rows
have ids of their own it is found, with its client (`Bank.findSavings_of_resolves`).
-/

namespace Remit

/-- An account that has a status, and not that of a closed account. -/
def AccountRow.IsOpen (a : AccountRow) : Prop :=
  ∃ status, a.status = some status ∧ status ≠ Bank.closedStatus

namespace Bank

/-- The open savings account of a number with the lowest id. -/
structure IsFirstOpen (b : Bank) (number : String) (a : AccountRow) : Prop where
  mem : a ∈ b.savings
  numbered : a.number = some number
  isOpen : a.IsOpen
  lowest : ∀ a' ∈ b.savings, a'.number = some number → a'.IsOpen → a.id ≤ a'.id

/-- The account that a number stands for, and the client that holds it. -/
structure Resolves (b : Bank) (number : String) (a : AccountRow) (c : Client) : Prop where
  first : b.IsFirstOpen number a
  mem : c ∈ b.clients
  holds : a.clientId = some c.id

/-- The rows of the bank have ids of their own. -/
structure UniqueIds (b : Bank) : Prop where
  offices : (b.offices.map (·.id)).Nodup
  clients : (b.clients.map (·.id)).Nodup
  savings : (b.savings.map (·.id)).Nodup
  loans : (b.loans.map (·.id)).Nodup

variable {b : Bank} {number : String} {a : AccountRow} {c : Client}

/-- Whether a savings account is found by a number. -/
theorem matches_iff {a : AccountRow} :
    (a.number == some number && a.status.isSome && a.status != some closedStatus) = true ↔
      a.number = some number ∧ a.IsOpen := by
  cases hstatus : a.status <;> simp [AccountRow.IsOpen, hstatus]

/-- The account that is found by a number is the first open one. -/
theorem isFirstOpen_of_head? (h : ((byId (·.id) b.savings).filter fun a =>
      a.number == some number && a.status.isSome && a.status != some closedStatus).head? = some a) :
    b.IsFirstOpen number a := by
  rw [List.head?_filter] at h
  have hfound := List.find?_some h
  obtain ⟨hnumber, hopen⟩ := matches_iff.1 hfound
  exact ⟨mem_byId.1 (List.mem_of_find?_eq_some h), hnumber, hopen,
    fun a' ha' hn ho => le_of_find?_byId h a' ha' (matches_iff.2 ⟨hn, ho⟩)⟩

/-- The record of a number is that of the first open account, with its client if it has one. -/
theorem isFirstOpen_of_findSavings {number number' : String} {account client : Int}
    {office : Option Int}
    (h : b.findSavings number = some ⟨account, number', some client, office⟩) :
    ∃ a, b.IsFirstOpen number a ∧ a.id = account ∧
      ∃ c ∈ b.clients, a.clientId = some c.id ∧ c.id = client ∧ c.officeId = office := by
  obtain ⟨a, hhead, hrecord⟩ := Option.map_eq_some_iff.1 h
  unfold savingsRecord at hrecord
  split at hrecord
  · next c hc =>
    cases hrecord
    exact ⟨a, isFirstOpen_of_head? hhead, rfl, c, List.mem_of_find?_eq_some hc,
      by simpa using List.find?_some hc, rfl, rfl⟩
  · cases hrecord

/-- The account that a number stands for is found, with its client. -/
theorem findSavings_of_resolves (hb : b.UniqueIds) (h : b.Resolves number a c) :
    b.findSavings number = some ⟨a.id, number, some c.id, c.officeId⟩ := by
  have hfirst : ((byId (·.id) b.savings).filter fun a =>
      a.number == some number && a.status.isSome && a.status != some closedStatus).head? =
        some a := by
    rw [List.head?_filter, find?_byId_eq_some_iff hb.savings]
    refine ⟨h.first.mem, matches_iff.2 ⟨h.first.numbered, h.first.isOpen⟩, fun a' ha' hm => ?_⟩
    obtain ⟨hn, ho⟩ := matches_iff.1 hm
    exact h.first.lowest a' ha' hn ho
  have hclient : (b.clients.find? fun c => a.clientId == some c.id) = some c := by
    refine find?_eq_of_id hb.clients h.mem (by simp [h.holds]) fun c' _ hc' => ?_
    have hid : a.clientId = some c'.id := by simpa using hc'
    exact Option.some_inj.1 (hid.symm.trans h.holds)
  rw [findSavings]
  simp only [hfirst, Option.map_some, savingsRecord, hclient]

end Bank

end Remit
