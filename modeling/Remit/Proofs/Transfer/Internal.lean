import Remit.Proofs.Request.Transfer
import Remit.Proofs.Store.Savings
import Remit.Proofs.Transfer.Added

/-!
# No stored beneficiary is external

A transfer is refused for an external destination only if a candidate for it has no account of this
system (`exists_unresolved_of_external`). The service never stores such a beneficiary: every row
that it has stored is `BeneficiaryRow.IsGenuine`, a valid row for the first open savings account of
its number. So a table that has grown from nothing knows no external destination
(`Store.GrownOver.not_external`), whatever was done to it (`genuine_afterOperations`).
-/

namespace Remit

/-! ## Refusals for an external destination -/

/-- A failure of the store or of arithmetic is no refusal. -/
theorem mapError_breakdown_ne {ε α : Type} {x : Except ε α} {f : ε → Breakdown} {r : Refusal} :
    x.mapError (fun e => Fault.breakdown (f e)) ≠ .error (.refusal r) := by
  cases x <;> exact nofun

namespace Authorization

variable {facts : Facts} {user : User} {type : TransferType} {settings : LimitSettings}
  {source destination : AccountHandle} {candidates : List AccountHandle} {number : String}
  {input : TransferInput}

/-- The error of a destination that is found, but not in this system. -/
def external : Fault := .refusal (.invalidDestination externalReason)

/-- A destination is external only if a candidate is unresolved. -/
theorem exists_unresolved_of_selectDestination
    (h : (selectDestination candidates number).outcome = .error external) :
    ∃ c ∈ candidates, c.isResolved = false := by
  simp only [selectDestination] at h
  split at h
  · cases h
  · next hnone =>
    split at h
    · have hreason : notFoundReason = externalReason :=
        Option.some.inj (Refusal.invalidDestination.inj (Fault.refusal.inj (Except.error.inj h)))
      exact absurd hreason (by decide +kernel)
    · next hne =>
      have hmatching : candidates.filter (·.accountNumber == some number) ≠ [] := by
        intro hnil
        exact hne (by rw [hnil]; rfl)
      obtain ⟨c, hc⟩ := List.exists_mem_of_ne_nil _ hmatching
      exact ⟨c, (List.mem_filter.1 hc).1, by simpa using List.find?_eq_none.1 hnone c hc⟩

/-- Ends that are not allowed are not called external. -/
theorem outcome_checkMembership_ne_external (s : Store) :
    (checkMembership (.ofStore s user) user type source destination).outcome ≠ .error external := by
  intro h
  rw [outcome_checkMembership] at h
  rcases bind_eq_error.1 h with h | ⟨self, -, h⟩
  · exact mapError_breakdown_ne h
  rcases bind_eq_error.1 h with h | ⟨destinations, -, h⟩
  · exact mapError_breakdown_ne h
  split at h
  · cases h
  split at h
  · cases h
  split at h
  · cases h
  · cases h

/-- An amount above a ceiling does not make a destination external. -/
theorem outcome_checkLimits_ne_external (s : Store) :
    (checkLimits (.ofStore s user) settings type source destination input).outcome ≠
      .error external := by
  intro h
  cases type with
  | self => cases h
  | tpt =>
    rw [outcome_checkLimits_tpt, outcome_checkBeneficiaryLimit, outcome_checkDailyLimit] at h
    rcases bind_eq_error.1 h with h | ⟨_, -, h⟩
    · rcases bind_eq_error.1 h with h | ⟨limit, -, h⟩
      · exact mapError_breakdown_ne h
      rcases bind_eq_error.1 h with h | ⟨exceeds, -, h⟩
      · exact mapError_breakdown_ne h
      split at h
      · cases h
      · cases h
    · split at h
      · rcases bind_eq_error.1 h with h | ⟨total, -, h⟩
        · exact mapError_breakdown_ne h
        rcases bind_eq_error.1 h with h | ⟨consumed, -, h⟩
        · exact mapError_breakdown_ne h
        rcases bind_eq_error.1 h with h | ⟨exceeds, -, h⟩
        · exact mapError_breakdown_ne h
        split at h
        · cases h
        · cases h
      · cases h

end Authorization

open Authorization in
/-- On the answers of a store, a transfer is refused for an external destination only if a candidate
for the destination is unresolved. -/
theorem exists_unresolved_of_external {s : Store} {user : User} {type : TransferType}
    {fields : Fields} {day : Date} {settings : LimitSettings}
    (h : (authorize (.ofStore s user) user type fields day settings).outcome = .error external) :
    ∃ candidates, Template.candidates s user type = .ok candidates ∧
      ∃ c ∈ candidates, c.isResolved = false := by
  rw [outcome_authorize] at h
  rcases bind_eq_error.1 h with h | ⟨input, -, h⟩
  · rcases Request.transferInput_cases fields day with ⟨errors, he⟩ | ⟨input, hi, -⟩
    · cases he.symm.trans h
    · cases hi.symm.trans h
  rcases bind_eq_error.1 h with h | ⟨source, -, h⟩
  · -- a user without a single account has no source, whatever the destination
    rcases bind_eq_error.1 h with h | ⟨accounts, -, h⟩
    · exact absurd h mapError_breakdown_ne
    · rcases accounts with _ | ⟨a, _ | ⟨a', accounts⟩⟩ <;> cases h
  rcases bind_eq_error.1 h with h | ⟨candidates, hcandidates, h⟩
  · exact absurd h mapError_breakdown_ne
  rcases bind_eq_error.1 h with h | ⟨destination, -, h⟩
  · exact ⟨candidates, mapError_eq_ok.1 hcandidates, exists_unresolved_of_selectDestination h⟩
  rcases bind_eq_error.1 h with h | ⟨_, -, h⟩
  · exact absurd h (outcome_checkMembership_ne_external s)
  rcases bind_eq_error.1 h with h | ⟨_, -, h⟩
  · exact absurd h (outcome_checkLimits_ne_external s)
  · cases h

/-! ## What is stored -/

/-- A valid row for the first open savings account of its number, with the client that holds the
account and the office of the client. -/
structure BeneficiaryRow.IsGenuine (r : BeneficiaryRow) (b : Bank) : Prop extends r.IsValid where
  institution : r.institutionName = "LOCAL"
  savings : r.accountType = 2
  account : ∃ a, b.IsFirstOpen r.accountNumber a ∧ r.accountId = some a.id ∧
    ∃ c ∈ b.clients, a.clientId = some c.id ∧ r.clientId = some c.id ∧ r.officeId = c.officeId

variable {s : Store} {b : Bank} {user : User}

/-- A row that is resolved in a bank and valid is genuine. -/
theorem BeneficiaryRow.IsGenuine.of_resolvedIn {r : BeneficiaryRow} (h : r.ResolvedIn b)
    (hv : r.IsValid) : r.IsGenuine b := by
  obtain ⟨account, client, haccount, -, hclient, hfound⟩ := h.found
  obtain ⟨a, hfirst, rfl, c, hc, hac, rfl, hoffice⟩ := Bank.isFirstOpen_of_findSavings hfound
  exact { hv with
    institution := h.institution
    savings := h.savings
    account := ⟨a, hfirst, haccount, c, hc, hac, hclient, hoffice.symm⟩ }

namespace Store

/-- In a table that has grown over a bank, all candidates for a destination are accounts of this
system. -/
theorem GrownOver.isResolved_of_candidates (hs : s.GrownOver b) {type : TransferType}
    {candidates : List AccountHandle} (h : Template.candidates s user type = .ok candidates)
    {c : AccountHandle} (hc : c ∈ candidates) : c.isResolved = true := by
  cases hu : fitsColumn user.id with
  | false =>
    rw [Template.candidates_of_not_fits hu] at h
    cases h
  | true =>
    cases type with
    | self =>
      obtain ⟨self, hself, hset⟩ := Template.selfAccounts_eq (s := s) hu
      rw [Template.candidates, hself] at h
      obtain rfl : AccountHandle.sorted self = candidates := Except.ok.inj h
      exact (hset.sound c (List.mem_mergeSort.1 hc)).isResolved
    | tpt =>
      have hrows : Template.candidates s user .tpt = .ok ((s.activeRows user.id).map (·.handle)) :=
        Template.beneficiaryAccounts_eq hs.wellFormed hu
      obtain rfl : _ = candidates := Except.ok.inj (hrows.symm.trans h)
      obtain ⟨r, hr, rfl⟩ := List.mem_map.1 hc
      exact (hs.resolved r (Store.mem_activeRows.1 hr).1).isSome_accountId

/-- In a table that has grown over a bank, no destination is external. -/
theorem GrownOver.not_external (hs : s.GrownOver b) (user : User) (type : TransferType)
    (fields : Fields) (day : Date) (settings : LimitSettings) :
    (authorize (.ofStore s user) user type fields day settings).outcome ≠
      .error Authorization.external := by
  intro h
  obtain ⟨candidates, hcandidates, c, hc, hunresolved⟩ := exists_unresolved_of_external h
  rw [hs.isResolved_of_candidates hcandidates hc] at hunresolved
  cases hunresolved

end Store

/-- Whatever users do to a table that was empty, every row in it is genuine, the tables of the bank
are as they were, and no transfer is refused for an external destination. -/
theorem genuine_afterOperations (b : Bank) (ops : List (User × Operation)) :
    (({ bank := b } : Store).afterOperations ops).bank = b ∧
    (∀ r ∈ (({ bank := b } : Store).afterOperations ops).beneficiaries, r.IsGenuine b) ∧
    ∀ user type fields day settings,
      (authorize (.ofStore (({ bank := b } : Store).afterOperations ops) user) user type fields day
        settings).outcome ≠
          .error (.refusal (.invalidDestination Authorization.externalReason)) := by
  have hs := (Store.grownOver_empty b).afterOperations ops
  refine ⟨hs.bank, fun r hr => ?_, fun user type fields day settings => ?_⟩
  · exact .of_resolvedIn (hs.resolved r hr) (hs.valid r hr)
  · exact hs.not_external user type fields day settings

/-- An addition and an update of what was added leave a genuine row. -/
theorem genuine_spaced :
    let ops : List (User × Operation) := [(⟨7, []⟩, .add (.beneficiary "Bob" "B1")),
      (⟨7, []⟩, .update 1 [("transferLimit", .int 5)])]
    (({ bank := .spaced } : Store).afterOperations ops).beneficiaries =
      [{ BeneficiaryRow.bob with transferLimit := some 5 }] ∧
    ({ BeneficiaryRow.bob with transferLimit := some 5 } : BeneficiaryRow).IsGenuine .spaced := by
  intro ops
  have hops : ({ bank := .spaced } : Store).afterOperations ops =
      ((Operation.update 1 [("transferLimit", .int 5)]).run ⟨7, []⟩ ⟨[.bob], .spaced⟩).2 := by
    simp only [Store.afterOperations, ops, List.foldl_cons, List.foldl_nil, run_add_bob]
  have hrows : (({ bank := .spaced } : Store).afterOperations ops).beneficiaries =
      [{ BeneficiaryRow.bob with transferLimit := some 5 }] := by
    rw [hops]
    decide +kernel
  obtain ⟨-, hgenuine, -⟩ := genuine_afterOperations .spaced ops
  rw [hrows] at hgenuine
  exact ⟨hrows, hgenuine _ (List.mem_singleton.2 rfl)⟩

end Remit
