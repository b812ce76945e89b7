import Mathlib
import Remit.Proofs.Store.Provenance
import Remit.Proofs.Transfer.SameAccount
import Remit.Proofs.Transfer.ThirdParty

/-!
# Paying an added beneficiary

A beneficiary that was just added should be a valid destination for the account number that was
given. Both requests read this number, but not in one way: a new beneficiary is stored and looked up
under the number as it was given, while a transfer looks for the number without the blanks around
it. So the transfer reaches the account exactly if there are no such blanks (`authorize_added_iff`).
If there are, it is refused, or it goes to another beneficiary of the user whose number is the one
without blanks (`spaced_not_reached`).
-/

namespace Remit

/-- A request to transfer an amount to an account number. -/
def Fields.payment (number amount description : Value) : Fields :=
  [("toAccountNumber", number), ("transferAmount", amount), ("transferDescription", description)]

/-- Nothing but the number of its account stands against a transfer to a row: the user owns one
other account, the amount is above none of the user's limits on the account of the row, and there is
no daily ceiling. -/
structure Affordable (s : Store) (user : User) (r : BeneficiaryRow) (source : AccountHandle)
    (amount : Decimal.Representable) (settings : LimitSettings) : Prop where
  owned : AccountHandle.IsSetOf [source] (s.bank.Owns user.id)
  distinct : source.key ≠ r.handle.key
  positive : 0 < amount.val.value
  within : ∀ limit, s.IsLimit user.id r.accountId r.accountType limit → amount.val.value ≤ limit
  unlimited : settings.enabled = false

variable {s : Store} {b : Bank} {user : User} {r : BeneficiaryRow} {source : AccountHandle}
  {amount : Decimal.Representable} {settings : LimitSettings} {number value description : Value}
  {text : String} {day : Date}

/-- A transfer request is read with the number it is for, the blanks around it left out. -/
theorem transferInput_payment (day : Date) {n : String} (hn : number.IsText 22 n)
    (ha : value.amount? = some amount) (hpos : 0 < amount.val.value)
    (hd : description.IsText 200 text) :
    Request.transferInput (.payment number value description) day =
      .ok ⟨Text.strip n, amount, text, day⟩ :=
  Request.transferInput_eq_ok_iff.2 {
    supported := by simp [Fields.payment, Request.transferParameters]
    number := ⟨n, hn, rfl⟩
    amount := ha
    positive := hpos
    description := hd
    day := rfl }

/-- The strictest limit that is stored for the account of a row lets an affordable amount pass. -/
theorem Affordable.withinLimit (h : Affordable s user r source amount settings)
    (hr : r.ResolvedIn b) (hu : fitsColumn user.id = true) {destination : AccountHandle}
    (hkey : destination.key = r.handle.key) :
    WithinLimit (.ofStore s user) destination amount := by
  obtain ⟨account, -, haccount, hfits, -, -⟩ := hr.found
  have hid : destination.accountId = some account := (congrArg (·.2.1) hkey).trans haccount
  have htype : destination.accountType = r.accountType := congrArg Prod.fst hkey
  have hfits' : fitsColumn r.accountType = true := by rw [hr.savings]; rfl
  refine ⟨(s.limitsOn user.id (some account) r.accountType).min?, ?_, fun l hl _ => ?_⟩
  · rw [hid, htype]
    exact congrArg (Except.mapError Fault.breakdown) (Store.transferLimit_eq hu hfits hfits')
  · obtain ⟨hlimit, -⟩ := (Store.min?_limitsOn_eq_some_iff rfl).1 hl
    exact h.within l (haccount ▸ hlimit)

/-- A transfer to the number of an active row is authorized, to the account of the row. -/
theorem Affordable.exists_outcome (hs : s.GrownOver b) (hu : fitsColumn user.id = true)
    (hr : r ∈ s.beneficiaries) (hactive : r.isActiveOf user.id = true)
    (h : Affordable s user r source amount settings) (ha : value.amount? = some amount)
    (hd : description.IsText 200 text) (hn : number.IsText 22 r.accountNumber)
    (hstrip : Text.strip r.accountNumber = r.accountNumber) :
    ∃ i, (authorize (.ofStore s user) user .tpt (.payment number value description) day
      settings).outcome = .ok i ∧ i.toKey = r.handle.key := by
  have hwf := hs.wellFormed
  have hresolved := hs.resolved r hr
  have hrequest := transferInput_payment day hn ha h.positive hd
  rw [hstrip] at hrequest
  obtain ⟨target, ht⟩ := ThirdParty.exists_isTarget hwf hr hactive rfl hresolved.isSome_accountId
  have hkey : target.handle.key = r.handle.key :=
    (hs.resolved target ht.mem).key_eq hresolved ht.named
  obtain ⟨source', hself, hsource, hkey'⟩ := Template.sourceAccount_of_isSetOf hu h.owned
  obtain ⟨destinations, hdestinations, hiff⟩ := Template.thirdPartyDestinations_eq hwf hu
  have hcandidates :
      Template.candidates s user .tpt = .ok ((s.activeRows user.id).map (·.handle)) :=
    Template.beneficiaryAccounts_eq hwf hu
  have hpassed : Passed (.ofStore s user) .tpt (.payment number value description) day settings
      source' target.handle ⟨r.accountNumber, amount, text, day⟩ := {
    request := hrequest
    taken := hsource
    selected := ⟨_, mapError_eq_ok.2 hcandidates,
      Authorization.outcome_selectDestination_of_some (ThirdParty.find?_candidates hwf ht)⟩
    owned := ⟨_, mapError_eq_ok.2 hself, AccountHandle.isIn_of_mem List.mem_cons_self⟩
    offered := ⟨_, mapError_eq_ok.2 hdestinations,
      (hiff _).2 ⟨target, ht.mem, ht.active, ht.resolved, rfl⟩⟩
    distinct := fun heq => h.distinct (hkey'.symm.trans (heq.trans hkey))
    limits := by
      rw [Authorization.outcome_checkLimits_tpt,
        (Authorization.outcome_checkBeneficiaryLimit_eq_ok (Value.isFinite_of_amount? ha)).2
          (h.withinLimit hresolved hu hkey)]
      refine Authorization.outcome_checkDailyLimit_eq_ok.2 fun henabled => ?_
      rw [h.unlimited] at henabled
      cases henabled }
  exact ⟨_, outcome_authorize_eq_ok.2 ⟨source', target.handle, _, hpassed, rfl⟩, hkey⟩

/-- A transfer that reaches the account of a row was for its number. -/
theorem number_eq_of_outcome (hb : (b.savings.map (·.id)).Nodup) (hs : s.GrownOver b)
    (hu : fitsColumn user.id = true) (hr : r.ResolvedIn b) {fields : Fields} {i : Instruction}
    {input : TransferInput} (hrequest : Request.transferInput fields day = .ok input)
    (h : (authorize (.ofStore s user) user .tpt fields day settings).outcome = .ok i)
    (hkey : i.toKey = r.handle.key) : input.toAccountNumber = r.accountNumber := by
  obtain ⟨source', destination, input', hp, rfl⟩ := outcome_authorize_eq_ok.1 h
  obtain rfl : input = input' := Except.ok.inj (hrequest.symm.trans hp.request)
  obtain ⟨candidates, hcandidates, hselected⟩ := hp.selected
  obtain ⟨hm, hn, -⟩ := Authorization.of_outcome_selectDestination hselected
  have hrows : Template.candidates s user .tpt = .ok ((s.activeRows user.id).map (·.handle)) :=
    Template.beneficiaryAccounts_eq hs.wellFormed hu
  obtain rfl : _ = candidates := Except.ok.inj (hrows.symm.trans (mapError_eq_ok.1 hcandidates))
  obtain ⟨r', hr', -, rfl⟩ := ThirdParty.exists_of_mem_candidates hm
  have hid : r'.accountId = r.accountId := congrArg (·.2.1) hkey
  rw [← (hs.resolved r' hr').number_eq hb hr hid]
  exact (Option.some_inj.1 hn).symm

/-- What an addition leaves behind: a resolved row of the user, under the number that was given. -/
theorem exists_added {fields : Fields} {id : Int} {t : Store}
    (h : (Operation.add fields).run user s = (.ok (.added id), t)) :
    ∃ r ∈ t.beneficiaries, r.id = id ∧ r.isActiveOf user.id = true ∧ fitsColumn user.id = true ∧
      (fields.get "accountNumber").IsText 20 r.accountNumber := by
  simp only [Operation.run] at h
  rcases Registry.add_cases user fields s with
    ⟨e, he⟩ | ⟨requested, resolved, r, hrequested, hresolved, hrow, -, hadded⟩
  · rw [he] at h
    cases h
  · rw [hadded] at h
    cases h
    obtain ⟨-, hnumber⟩ := Registry.resolvedIn_of_rowOf hresolved hrow
    obtain ⟨_, _, -, -, -, hfits, -⟩ := Store.rowOf_newBeneficiary hrow
    have huser : resolved.userId = user.id :=
      Value.int.inj (Registry.userId_draft hrequested hresolved)
    refine ⟨r, Store.mem_withRow.2 (.inr rfl), rfl,
      Registry.isActiveOf_of_rowOf hrequested hresolved hrow, huser ▸ hfits, ?_⟩
    rw [hnumber]
    exact (Request.isNewBeneficiary_of_ok hrequested).accountNumber

/-- Whatever users did before over an unchanging bank, a transfer to the number that was given for
an added beneficiary is authorized and reaches its account, exactly if there are no blanks around
the number. -/
theorem authorize_added_iff (b : Bank) (hb : (b.savings.map (·.id)).Nodup)
    (ops : List (User × Operation)) (user : User) (fields : Fields) {id : Int} {t : Store}
    (hadd : (Operation.add fields).run user (({ bank := b } : Store).afterOperations ops) =
      (.ok (.added id), t)) :
    ∃ r ∈ t.beneficiaries, r.id = id ∧ (fields.get "accountNumber").text? = some r.accountNumber ∧
      ∀ source amount settings value description text day,
        Affordable t user r source amount settings → value.amount? = some amount →
        description.IsText 200 text →
        ((∃ i, (authorize (.ofStore t user) user .tpt
            (.payment (fields.get "accountNumber") value description) day settings).outcome =
              .ok i ∧
          i.toKey = r.handle.key) ↔ Text.strip r.accountNumber = r.accountNumber) := by
  obtain ⟨r, hr, hid, hactive, hu, hnumber⟩ := exists_added hadd
  have hs : t.GrownOver b := by
    have h := ((Store.grownOver_empty b).afterOperations ops).run user (.add fields)
    rwa [hadd] at h
  refine ⟨r, hr, hid, hnumber.text, ?_⟩
  intro source amount settings value description text day h ha hd
  have hnumber' := hnumber.mono (by decide : (20 : Int) ≤ 22)
  constructor
  · rintro ⟨i, hi, hkey⟩
    exact number_eq_of_outcome hb hs hu (hs.resolved r hr)
      (transferInput_payment day hnumber' ha h.positive hd) hi hkey
  · exact fun hstrip => h.exists_outcome hs hu hr hactive ha hd hnumber' hstrip

/-- A bank with an account of user 7, and two accounts of others whose numbers differ in a blank
only. -/
def Bank.spaced : Bank where
  offices := [⟨1, some "Main"⟩]
  clients := [⟨1, some 1, some "Cleo"⟩, ⟨2, some 1, some "Ann"⟩, ⟨3, some 1, some "Bob"⟩]
  mappings := [⟨1, some 7, some 1⟩]
  savings := [⟨10, some "A1", some 1, some 300⟩, ⟨20, some " B1", some 2, some 300⟩,
    ⟨21, some "B1", some 3, some 300⟩]

/-- A request to add the savings account of a number under a name. -/
def Fields.beneficiary (name number : String) : Fields :=
  [("name", .text name), ("accountName", .text name), ("institutionName", .text "LOCAL"),
    ("accountNumber", .text number), ("accountType", .int 2)]

/-- The row of Bob, whose number has no blanks around it. -/
def BeneficiaryRow.bob : BeneficiaryRow where
  id := 1
  userId := 7
  name := "Bob"
  accountName := "Bob"
  institutionName := "LOCAL"
  accountNumber := "B1"
  accountId := some 21
  clientId := some 3
  officeId := some 1
  accountType := 2

/-- The row of Ann, whose number has a blank in front. -/
def BeneficiaryRow.ann : BeneficiaryRow where
  id := 2
  userId := 7
  name := "Ann"
  accountName := "Ann"
  institutionName := "LOCAL"
  accountNumber := " B1"
  accountId := some 20
  clientId := some 2
  officeId := some 1
  accountType := 2

/-- The decision about a transfer of five units of user 7 to a number. -/
def Store.payFive (s : Store) (number : String) : Except Fault Instruction :=
  (authorize (.ofStore s ⟨7, []⟩) ⟨7, []⟩ .tpt
    (.payment (.text number) (.text "5") (.text "rent")) ⟨2024, .march, 1⟩ {}).outcome

/-- The account of user 7. -/
def AccountHandle.spaced : AccountHandle where
  accountId := some 10
  accountType := 2
  clientId := some 1
  officeId := some 1
  accountNumber := some "A1"
  clientName := some "Cleo"
  officeName := some "Main"

/-- Five units are affordable for any other account, as long as no row has a limit. -/
theorem affordable_spaced {rows : List BeneficiaryRow} (hrows : ∀ r ∈ rows, r.transferLimit = none)
    (hr : r.accountId ≠ some 10) :
    Affordable ⟨rows, .spaced⟩ ⟨7, []⟩ r .spaced (.ofInt 5) {} := by
  obtain ⟨hs, hself, hset⟩ : ∃ hs, Template.selfAccounts ⟨rows, .spaced⟩ ⟨7, []⟩ = .ok hs ∧
      AccountHandle.IsSetOf hs (Bank.spaced.Owns 7) := Template.selfAccounts_eq rfl
  have hself' : Template.selfAccounts ⟨rows, .spaced⟩ ⟨7, []⟩ = .ok [.spaced] := by cbv
  obtain rfl : hs = [.spaced] := Except.ok.inj (hself.symm.trans hself')
  refine ⟨hset, fun hkey => hr (congrArg (·.2.1) hkey).symm, ?_, ?_, rfl⟩
  · rw [Decimal.Representable.val_ofInt, Decimal.value_ofInt]
    norm_num
  · rintro limit ⟨r', hm, -, -, -, hl, -⟩
    rw [hrows r' hm] at hl
    cases hl

/-- Bob is added to the empty table, with the account of his number. -/
theorem run_add_bob : (Operation.add (.beneficiary "Bob" "B1")).run ⟨7, []⟩ ⟨[], .spaced⟩ =
    (.ok (.added 1), ⟨[.bob], .spaced⟩) := by
  cbv

/-- An account without blanks around its number is reached after it was added. -/
theorem spaced_reached :
    ∃ i, (⟨[.bob], .spaced⟩ : Store).payFive "B1" = .ok i ∧
      i.toKey = BeneficiaryRow.bob.handle.key := by
  have h : Affordable ⟨[.bob], .spaced⟩ ⟨7, []⟩ .bob .spaced (.ofInt 5) {} :=
    affordable_spaced (by decide) (by decide)
  obtain ⟨r, hr, -, -, hiff⟩ := authorize_added_iff .spaced (by decide) [] ⟨7, []⟩
    (.beneficiary "Bob" "B1") run_add_bob
  obtain rfl := List.mem_singleton.1 hr
  exact (hiff .spaced (.ofInt 5) {} (.text "5") (.text "rent") "rent" ⟨2024, .march, 1⟩ h (by cbv)
    (Value.isText_text.2 (by decide))).2 (by decide)

/-- A number with a blank in front is added, but a transfer to it goes to the account of another
beneficiary. -/
theorem spaced_not_reached :
    (Operation.add (.beneficiary "Bob" "B1")).run ⟨7, []⟩ ⟨[], .spaced⟩ =
      (.ok (.added 1), ⟨[.bob], .spaced⟩) ∧
    (Operation.add (.beneficiary "Ann" " B1")).run ⟨7, []⟩ ⟨[.bob], .spaced⟩ =
      (.ok (.added 2), ⟨[.bob, .ann], .spaced⟩) ∧
    Affordable ⟨[.bob, .ann], .spaced⟩ ⟨7, []⟩ .ann .spaced (.ofInt 5) {} ∧
    ∃ i, (⟨[.bob, .ann], .spaced⟩ : Store).payFive " B1" = .ok i ∧
      i.toAccountId = BeneficiaryRow.bob.accountId ∧
      i.toAccountId ≠ BeneficiaryRow.ann.accountId := by
  refine ⟨run_add_bob, by cbv, affordable_spaced (by decide) (by decide), {
      fromOfficeId := some 1, fromClientId := some 1, fromAccountId := some 10,
      fromAccountType := 2, toOfficeId := some 1, toClientId := some 3, toAccountId := some 21,
      toAccountType := 2, amount := .ofInt 5, day := ⟨2024, .march, 1⟩, description := "rent" },
    by cbv, rfl, by decide⟩

end Remit
