import Remit.Proofs.Lists
import Remit.Proofs.Request.Transfer
import Remit.Proofs.Store.Ledger
import Remit.Proofs.Transfer.Ceiling
import Remit.Proofs.Transfer.Questions

/-!
# Trying again with less

A transfer to a third party that was authorized is authorized again if its amount is lowered, and if
what speaks against transfers is eased: the day's total of the source is lower, the cap on it is
higher, or limits of beneficiaries are raised or removed (`Store.EasedTo`, `LimitSettings.EasedTo`).
The instruction is the same but for the amount (`authorize_eased`).

For the daily ceiling this rests on the order of rounded totals (`exceedsDailyLimit_eased`). Totals
that are no numbers are compared as the ceiling compares them: one that it lets pass is finite or
negatively infinite, where there is a cap at all (`finite_of_not_exceeded`).
-/

namespace Remit

open Decimal

/-! ## What may be eased -/

/-- A total that is equal to another or below it. -/
def Decimal.AtMost (d d' : Decimal) : Prop := d = d' ∨ d.le? d' = .ok true

/-- Settings after a positive cap was raised. -/
structure LimitSettings.EasedTo (settings settings' : LimitSettings) : Prop where
  enabled : settings'.enabled = settings.enabled
  cap : settings'.cap = settings.cap ∨
    ∃ cap ∈ settings.cap, ∃ cap' ∈ settings'.cap, 0 < cap ∧ cap ≤ cap'

/-- A row after its positive limit was raised or removed. A limit that is not positive is none. -/
structure BeneficiaryRow.EasedTo (r r' : BeneficiaryRow) : Prop where
  same : r' = { r with transferLimit := r'.transferLimit }
  limit : ∀ l' ∈ r'.transferLimit, 0 < l' → ∃ l ∈ r.transferLimit, 0 < l ∧ l ≤ l'

/-- A store after limits of beneficiaries were eased and other transfers were recorded, with which
the day's total of a user's source is not higher. -/
structure Store.EasedTo (s s' : Store) (user : User) (day : Date) : Prop where
  rows : List.Forall₂ BeneficiaryRow.EasedTo s.beneficiaries s'.beneficiaries
  bank : ∃ details transactions,
    s'.bank = { s.bank with details := details, transactions := transactions }
  total : ∀ source, Template.sourceAccount s user = .ok source → ∀ total,
    s.bank.total source.accountId source.accountType day = .ok total →
    ∃ total', s'.bank.total source.accountId source.accountType day = .ok total' ∧
      total'.val.AtMost total

/-! ## The daily ceiling -/

namespace LimitSettings

/-- Whether there is a ceiling at all. -/
def Caps (settings : LimitSettings) : Prop :=
  settings.enabled = true ∧ ∃ cap ∈ settings.cap, 0 < cap

variable {settings settings' : LimitSettings} {T T' P P' : ℚ}

/-- Where there is a ceiling after easing, there was one before. -/
theorem EasedTo.caps (h : settings.EasedTo settings') (hc : settings'.Caps) : settings.Caps := by
  obtain ⟨henabled, cap', hmem', hpos'⟩ := hc
  refine ⟨h.enabled.symm.trans henabled, ?_⟩
  rcases h.cap with hcap | ⟨cap, hmem, -, -, hpos, -⟩
  · exact ⟨cap', hcap ▸ hmem', hpos'⟩
  · exact ⟨cap, hmem, hpos⟩

/-- Each cap stands for one that is not higher. -/
theorem EasedTo.exists_cap (h : settings.EasedTo settings') {cap' : Int}
    (hmem' : cap' ∈ settings'.cap) (hpos' : 0 < cap') :
    ∃ cap ∈ settings.cap, 0 < cap ∧ (cap : ℚ) ≤ cap' := by
  rcases h.cap with hcap | ⟨cap, hmem, cap'', hmem'', hpos, hle⟩
  · exact ⟨cap', hcap ▸ hmem', hpos', le_rfl⟩
  · obtain rfl : cap'' = cap' := Option.mem_unique hmem'' hmem'
    exact ⟨cap, hmem, hpos, by exact_mod_cast hle⟩

/-- What is rejected after settings were eased, the total before and the total after a transfer
being lower, was rejected before. -/
theorem EasedTo.rejects (h : settings.EasedTo settings') (hT : T' ≤ T) (hP : 0 < T' → P' ≤ P)
    (hr : settings'.Rejects T' P') : settings.Rejects T P := by
  obtain ⟨henabled, cap', hmem', hpos', hT', hreached⟩ := hr
  obtain ⟨cap, hmem, hpos, hle⟩ := h.exists_cap hmem' hpos'
  refine ⟨h.enabled.symm.trans henabled, cap, hmem, hpos, hT'.trans_le hT, ?_⟩
  exact hreached.imp (fun hle' => (hle.trans hle').trans hT)
    (fun hlt => (hle.trans_lt hlt).trans_le (hP hT'))

/-- A total that is weighed after settings were eased was weighed before, or decided alone. -/
theorem EasedTo.weighs (h : settings.EasedTo settings') (hT : T' ≤ T) (hw : settings'.Weighs T')
    (hr : ¬ settings.Rejects T P) : settings.Weighs T := by
  obtain ⟨henabled, cap', hmem', hT', hlt⟩ := hw
  have hpos' : 0 < cap' := by exact_mod_cast hT'.trans hlt
  obtain ⟨cap, hmem, hpos, -⟩ := h.exists_cap hmem' hpos'
  have henabled' := h.enabled.symm.trans henabled
  refine ⟨henabled', cap, hmem, hT'.trans_le hT, not_le.1 fun hreached => hr ?_⟩
  exact ⟨henabled', cap, hmem, hpos, hT'.trans_le hT, .inl hreached⟩

end LimitSettings

variable {amount amount' total total' : Decimal} {settings settings' : LimitSettings}

/-- Without a ceiling nothing is too much. -/
theorem exceedsDailyLimit_of_not_caps (h : ¬ settings.Caps) (consumed : Option Decimal) :
    exceedsDailyLimit amount consumed settings = .ok false := by
  obtain ⟨_ | _, _ | cap⟩ := settings
  case true.some =>
    have hcap : cap ≤ 0 := not_lt.1 fun hpos => h ⟨rfl, cap, rfl, hpos⟩
    cases consumed with
    | none => rfl
    | some consumed =>
      simp only [exceedsDailyLimit, hcap, if_true]
      rfl
  all_goals rfl

/-- Where there is a ceiling, a total that it lets pass is finite or negatively infinite. -/
theorem finite_of_not_exceeded (hc : settings.Caps)
    (h : exceedsDailyLimit amount (some total) settings = .ok false) :
    total.isFinite = true ∨ total = .infinite true := by
  obtain ⟨enabled, _⟩ := settings
  obtain ⟨rfl, cap, rfl, hpos⟩ := hc
  cases total with
  | finite n c e => exact .inl rfl
  | infinite n =>
    cases n with
    | true => exact .inr rfl
    | false =>
      simp [exceedsDailyLimit, not_le.2 hpos] at h
      cases h
  | nan n signaling payload =>
    simp [exceedsDailyLimit, not_le.2 hpos] at h
    cases h

/-- A total at most as high as one that a ceiling lets pass is negatively infinite, or both are
finite and compare by value. -/
theorem Decimal.AtMost.value_le (h : total'.AtMost total)
    (hf : total.isFinite = true ∨ total = .infinite true) :
    total' = .infinite true ∨
      total'.isFinite = true ∧ total.isFinite = true ∧ total'.value ≤ total.value := by
  rcases h with rfl | h
  · exact hf.elim (fun hf => .inr ⟨hf, hf, le_rfl⟩) .inl
  rcases hf with hf | rfl
  · cases total' with
    | finite n c e =>
      rw [le?_finite rfl hf] at h
      exact .inr ⟨rfl, hf, of_decide_eq_true (Except.ok.inj h)⟩
    | infinite n =>
      obtain ⟨_, _, _, rfl⟩ := isFinite_iff.1 hf
      cases n with
      | true => exact .inl rfl
      | false => cases h
    | nan => cases h
  · cases total' with
    | infinite n =>
      cases n with
      | true => exact .inl rfl
      | false => cases h
    | _ => cases h

/-- What the daily ceiling lets pass it lets pass again, for an amount and a total that are not
higher, and after it was eased. -/
theorem exceedsDailyLimit_eased (hs : settings.EasedTo settings') (ha : 0 < amount'.value)
    (hle : amount'.value ≤ amount.value) (ht : total'.AtMost total)
    (h : exceedsDailyLimit amount (some total) settings = .ok false) :
    exceedsDailyLimit amount' (some total') settings' = .ok false := by
  by_cases hcaps : settings'.Caps
  case neg => exact exceedsDailyLimit_of_not_caps hcaps _
  rcases ht.value_le (finite_of_not_exceeded (hs.caps hcaps) h) with rfl | ⟨hf', hf, hvalue⟩
  · obtain ⟨enabled, _⟩ := settings'
    obtain ⟨rfl, cap, rfl, hpos⟩ := hcaps
    simp only [exceedsDailyLimit, not_le.2 hpos, if_false]
    rfl
  -- Both totals are numbers, so that both decisions are those of the rule on rounded totals.
  rw [exceedsDailyLimit_eq (ha.trans_le hle) hf] at h
  rw [exceedsDailyLimit_eq ha hf']
  have hround : 0 < total'.value →
      nearest (total'.value + amount'.value) ≤ nearest (total.value + amount.value) :=
    fun hpos => nearest_mono (add_pos hpos ha) (add_le_add hvalue hle)
  split at h
  · cases h
  next hrepresented =>
  have hpasses := of_decide_eq_false (Except.ok.inj h)
  rw [if_neg, decide_eq_false fun hr => hpasses (hs.rejects hvalue hround hr)]
  rintro ⟨hweighs, hbound⟩
  have hpos : 0 < total'.value := by
    obtain ⟨-, cap, -, hpos, -⟩ := hweighs
    exact hpos
  exact hrepresented ⟨hs.weighs hvalue hweighs hpasses, hbound.trans (hround hpos)⟩

/-! ## The rows -/

namespace BeneficiaryRow

/-- A row without its limit. -/
def withoutLimit (r : BeneficiaryRow) : BeneficiaryRow := { r with transferLimit := none }

/-- Easing changes nothing of a row but its limit. -/
theorem EasedTo.withoutLimit_eq {r r' : BeneficiaryRow} (h : r.EasedTo r') :
    r'.withoutLimit = r.withoutLimit := by
  rw [h.same]
  rfl

/-- The account of a row does not depend on its limit. -/
theorem handle_withoutLimit (r : BeneficiaryRow) :
    Beneficiary.handle <$> r.withoutLimit.toBeneficiary =
      Beneficiary.handle <$> r.toBeneficiary := by
  simp only [toBeneficiary, withoutLimit]
  cases AccountType.ofNumber? r.accountType <;> rfl

/-- The accounts of rows do not depend on their limits. -/
theorem handles_withoutLimit (rows : List BeneficiaryRow) :
    List.map Beneficiary.handle <$> (rows.map withoutLimit).mapM (·.toBeneficiary) =
      List.map Beneficiary.handle <$> rows.mapM (·.toBeneficiary) := by
  induction rows with
  | nil => rfl
  | cons r rows ih =>
    have hr := r.handle_withoutLimit
    rw [List.map_cons, List.mapM_cons, List.mapM_cons]
    cases h : r.toBeneficiary <;> cases h' : r.withoutLimit.toBeneficiary <;> rw [h, h'] at hr
    case error.error =>
      cases hr
      rfl
    case ok.ok b b' =>
      have hb : b'.handle = b.handle := Except.ok.inj hr
      cases hs : rows.mapM (·.toBeneficiary) <;>
        cases hs' : (rows.map withoutLimit).mapM (·.toBeneficiary) <;> rw [hs, hs'] at ih
      case error.error =>
        cases ih
        rfl
      case ok.ok bs bs' =>
        have hbs : bs'.map Beneficiary.handle = bs.map Beneficiary.handle := Except.ok.inj ih
        show Except.ok (List.map Beneficiary.handle (b' :: bs')) = .ok (List.map _ (b :: bs))
        rw [List.map_cons, List.map_cons, hb, hbs]
      all_goals cases ih
    all_goals cases hr

end BeneficiaryRow

variable {s s' : Store} {user : User} {day : Date}

/-- Putting rows in order does not change what they are mapped to. -/
theorem byId_map {α β : Type} (id : β → Int) (f : α → β) (rows : List α) :
    byId id (rows.map f) = (byId (fun a => id (f a)) rows).map f := by
  refine (List.map_mergeSort (f := f) fun a _ b _ => ?_).symm
  rfl

/-- The accounts of beneficiaries are read off the rows without their limits. -/
theorem Template.beneficiaryAccounts_withoutLimits (s : Store) (user : User) :
    Template.beneficiaryAccounts s user = column user.id >>= fun u =>
      List.map Beneficiary.handle <$> (byId (·.id) ((s.beneficiaries.map (·.withoutLimit)).filter
        (·.isActiveOf u))).mapM (·.toBeneficiary) := by
  rw [Template.beneficiaryAccounts, Store.listActive]
  cases column user.id with
  | error e => rfl
  | ok u =>
    have hmap : byId (·.id) ((s.beneficiaries.map (·.withoutLimit)).filter (·.isActiveOf u)) =
        (byId (·.id) (s.beneficiaries.filter (·.isActiveOf u))).map (·.withoutLimit) := by
      rw [List.filter_map, byId_map]
      rfl
    show _ = List.map Beneficiary.handle <$> List.mapM _ (byId _ _)
    rw [hmap, BeneficiaryRow.handles_withoutLimit]
    rfl

namespace Store.EasedTo

/-- Without their limits, the rows are the same. -/
theorem map_withoutLimit (h : s.EasedTo s' user day) :
    s'.beneficiaries.map (·.withoutLimit) = s.beneficiaries.map (·.withoutLimit) := by
  have hrows := h.rows
  generalize s.beneficiaries = rows, s'.beneficiaries = rows' at hrows ⊢
  induction hrows with
  | nil => rfl
  | cons hr _ ih => rw [List.map_cons, List.map_cons, hr.withoutLimit_eq, ih]

/-- The accounts to transfer to are the same … -/
theorem beneficiaryAccounts_eq (h : s.EasedTo s' user day) :
    Template.beneficiaryAccounts s' user = Template.beneficiaryAccounts s user := by
  rw [Template.beneficiaryAccounts_withoutLimits, Template.beneficiaryAccounts_withoutLimits,
    h.map_withoutLimit]

/-- … and so are those to transfer from. -/
theorem selfAccounts_eq (h : s.EasedTo s' user day) :
    Template.selfAccounts s' user = Template.selfAccounts s user := by
  obtain ⟨details, transactions, hbank⟩ := h.bank
  rw [Template.selfAccounts, hbank]
  rfl

/-- The questions for accounts have the same answers. -/
theorem answers_eq (h : s.EasedTo s' user day) :
    (Facts.ofStore s' user).source = (Facts.ofStore s user).source ∧
    (Facts.ofStore s' user).selfAccounts = (Facts.ofStore s user).selfAccounts ∧
    (Facts.ofStore s' user).candidates .tpt = (Facts.ofStore s user).candidates .tpt ∧
    (Facts.ofStore s' user).destinations .tpt = (Facts.ofStore s user).destinations .tpt := by
  simp only [Facts.ofStore, Template.sourceAccount, Template.candidates, Template.destinations,
    Template.thirdPartyDestinations, h.selfAccounts_eq, h.beneficiaryAccounts_eq, and_self]

/-- Each positive limit stands for one that is not higher. -/
theorem exists_limit (h : s.EasedTo s' user day) {u : Int} {account : Option Int} {type l' : Int}
    (hl' : l' ∈ s'.limitsOn u account type) : ∃ l ∈ s.limitsOn u account type, l ≤ l' := by
  simp only [limitsOn, List.mem_filter, List.mem_filterMap, decide_eq_true_eq] at hl' ⊢
  obtain ⟨⟨r', ⟨hr', hon⟩, hlimit'⟩, hpos'⟩ := hl'
  obtain ⟨r, hr, heased⟩ := exists_of_mem_forall₂ h.rows hr'
  obtain ⟨l, hlimit, hpos, hle⟩ := heased.limit l' hlimit' hpos'
  rw [heased.same] at hon
  exact ⟨l, ⟨⟨r, ⟨hr, hon⟩, hlimit⟩, hpos⟩, hle⟩

/-- An amount that is not higher keeps below the limits. -/
theorem withinLimit (h : s.EasedTo s' user day) {destination : AccountHandle}
    (hle : amount'.value ≤ amount.value)
    (hl : WithinLimit (.ofStore s user) destination amount) :
    WithinLimit (.ofStore s' user) destination amount' := by
  obtain ⟨limit, hanswer, hbelow⟩ := hl
  simp only [Facts.ofStore, mapError_eq_ok, transferLimit, bind_eq_ok] at hanswer
  obtain ⟨u, hu, account, haccount, type, htype, hlimit⟩ := hanswer
  obtain rfl := Except.ok.inj hlimit
  refine ⟨(s'.limitsOn u destination.accountId type).min?, ?_, fun l' hl' hpos' => ?_⟩
  · simp only [Facts.ofStore, mapError_eq_ok, transferLimit, bind_eq_ok]
    exact ⟨u, hu, account, haccount, type, htype, rfl⟩
  obtain ⟨l, hl, hll'⟩ := h.exists_limit (List.min?_eq_some_iff.1 hl').1
  obtain ⟨least, hleast⟩ := Option.ne_none_iff_exists'.1
    fun hnone => List.ne_nil_of_mem hl (List.min?_eq_none_iff.1 hnone)
  obtain ⟨hmem, hleast_le⟩ := List.min?_eq_some_iff.1 hleast
  have hpos : 0 < least := of_decide_eq_true (List.mem_filter.1 hmem).2
  calc amount'.value ≤ amount.value := hle
    _ ≤ least := hbelow least hleast hpos
    _ ≤ l' := by exact_mod_cast (hleast_le l hl).trans hll'

/-- An amount that is not higher keeps below the daily ceiling after a total that is not higher. -/
theorem withinDay (h : s.EasedTo s' user day) (hs : settings.EasedTo settings')
    {source : AccountHandle} {input input' : TransferInput}
    (hsource : Template.sourceAccount s user = .ok source) (hday : input.day = day)
    (hday' : input'.day = day) (ha : 0 < input'.amount.val.value)
    (hle : input'.amount.val.value ≤ input.amount.val.value)
    (hd : WithinDay (.ofStore s user) settings source input) :
    WithinDay (.ofStore s' user) settings' source input' := by
  intro henabled
  obtain ⟨total, consumed, htotal, hconsumed, hpasses⟩ := hd (hs.enabled.symm.trans henabled)
  simp only [Facts.ofStore, mapError_eq_ok, hday] at htotal
  cases hbank : s.bank.total source.accountId source.accountType day with
  | error e =>
    rw [hbank] at htotal
    cases htotal
  | ok t =>
    rw [hbank] at htotal
    cases htotal
    obtain rfl : t = consumed := Except.ok.inj hconsumed
    obtain ⟨t', hbank', hatMost⟩ := h.total source hsource t hbank
    refine ⟨.decimal t', t', ?_, rfl, exceedsDailyLimit_eased hs ha hle hatMost hpasses⟩
    simp only [Facts.ofStore, hday', hbank']
    rfl

end Store.EasedTo

/-! ## The request -/

namespace Fields

/-- A field has the value that it was given. -/
@[simp] theorem get_put (fields : Fields) (name : String) (v : Value) :
    (fields.put name v).get name = v := by
  induction fields with
  | nil => simp [put, get]
  | cons f fields ih =>
    obtain ⟨k, w⟩ := f
    rw [put]
    split
    · next hk => simp [get, hk]
    · next hk =>
      rw [get, List.lookup_cons, beq_eq_false_iff_ne.2 (Ne.symm hk)]
      exact ih

/-- The other fields keep their values. -/
theorem get_put_of_ne {name name' : String} (h : name' ≠ name) (fields : Fields) (v : Value) :
    (fields.put name v).get name' = fields.get name' := by
  induction fields with
  | nil => simp [put, get, List.lookup_cons, beq_eq_false_iff_ne.2 h]
  | cons f fields ih =>
    obtain ⟨k, w⟩ := f
    rw [put]
    split
    · next hk =>
      simp [get, List.lookup_cons, hk, beq_eq_false_iff_ne.2 h]
    · next hk =>
      simp only [get, List.lookup_cons] at ih ⊢
      split
      · rfl
      · exact ih

/-- The fields are the one that was given and those that were there. -/
theorem of_mem_put {fields : Fields} {name : String} {v : Value} {f : String × Value}
    (hf : f ∈ fields.put name v) : f.1 = name ∨ f ∈ fields := by
  induction fields with
  | nil => exact .inl (congrArg Prod.fst (List.mem_singleton.1 hf))
  | cons g fields ih =>
    obtain ⟨k, w⟩ := g
    rw [put] at hf
    split at hf
    · next hk =>
      exact (List.mem_cons.1 hf).imp (fun h => (congrArg Prod.fst h).trans hk)
        (List.mem_cons_of_mem _)
    · rcases List.mem_cons.1 hf with rfl | hf
      · exact .inr List.mem_cons_self
      · exact (ih hf).imp_right (List.mem_cons_of_mem _)

end Fields

/-- A request of another positive amount is read as that. -/
theorem Request.IsTransferInput.put_amount {fields : Fields} {input : TransferInput} {v : Value}
    {a : Decimal.Representable} (h : Request.IsTransferInput fields day input)
    (hv : v.amount? = some a) (hpos : 0 < a.val.value) :
    Request.IsTransferInput (fields.put "transferAmount" v) day { input with amount := a } where
  supported f hf := by
    rcases Fields.of_mem_put hf with hname | hf
    · rw [hname]
      decide
    · exact h.supported f hf
  number := by rw [Fields.get_put_of_ne (by decide)]; exact h.number
  amount := by rw [Fields.get_put]; exact hv
  positive := hpos
  description := by rw [Fields.get_put_of_ne (by decide)]; exact h.description
  day := h.day

/-! ## The transfer -/

/-- A transfer to a third party that was authorized is authorized again for an amount that is not
higher, after what speaks against it was eased. The instruction is the same but for the amount. -/
theorem authorize_eased {fields : Fields} {v : Value} {a : Decimal.Representable} {i : Instruction}
    (hok : (authorize (.ofStore s user) user .tpt fields day settings).outcome = .ok i)
    (hstore : s.EasedTo s' user day) (hsettings : settings.EasedTo settings')
    (hv : v.amount? = some a) (hpos : 0 < a.val.value) (hle : a.val.value ≤ i.amount.val.value) :
    (authorize (.ofStore s' user) user .tpt (fields.put "transferAmount" v) day
      settings').outcome = .ok { i with amount := a } := by
  obtain ⟨source, destination, input, hpassed, rfl⟩ := outcome_authorize_eq_ok.1 hok
  have hinput := Request.transferInput_eq_ok_iff.1 hpassed.request
  have hsource : Template.sourceAccount s user = .ok source := hpassed.taken
  have hlimits : (Authorization.checkLimits (.ofStore s' user) settings' .tpt source destination
      { input with amount := a }).outcome = .ok () := by
    obtain ⟨hlimit, hday⟩ := hpassed.withinCeilings
    rw [Authorization.outcome_checkLimits_tpt_eq_ok (Value.isFinite_of_amount? hv)]
    exact ⟨hstore.withinLimit hle hlimit,
      hstore.withinDay hsettings hsource hinput.day hinput.day hpos hle hday⟩
  obtain ⟨htaken, hself, hcandidates, hdestinations⟩ := hstore.answers_eq
  refine outcome_authorize_eq_ok.2 ⟨source, destination, { input with amount := a }, ?_, rfl⟩
  exact {
    request := Request.transferInput_eq_ok_iff.2 (hinput.put_amount hv hpos)
    taken := htaken.trans hpassed.taken
    selected := hcandidates ▸ hpassed.selected
    owned := hself ▸ hpassed.owned
    offered := hdestinations ▸ hpassed.offered
    distinct := hpassed.distinct
    limits := hlimits }

namespace Spent

/-- The account of the user. -/
def source : AccountHandle :=
  { accountId := some 10, accountType := 2, clientId := some 1, officeId := some 1,
    accountNumber := some "A1", clientName := some "Cleo", officeName := some "Main" }

/-- The account of the user's beneficiary. -/
def destination : AccountHandle :=
  { accountId := some 20, accountType := 2, clientId := some 2, officeId := some 1,
    accountNumber := some "B1", clientName := some "Bob" }

/-- The user has transferred so much on the first of March, and may transfer so much to the
beneficiary at once. -/
def store (total : Int) (limit : Option Int) : Store where
  beneficiaries := [
    { id := 1, userId := 7, name := "Bob", accountName := "Bob", institutionName := "Near",
      accountNumber := "B1", accountId := some 20, clientId := some 2, officeId := some 1,
      accountType := 2, transferLimit := limit }]
  bank := {
    offices := [⟨1, some "Main"⟩]
    clients := [⟨1, some 1, some "Cleo"⟩, ⟨2, some 1, some "Bob"⟩]
    mappings := [⟨1, some 7, some 1⟩]
    savings := [⟨10, some "A1", some 1, some 300⟩, ⟨20, some "B1", some 2, some 300⟩]
    details := [⟨1, some 1, some 2, some 10, none⟩]
    transactions := [⟨1, some 1, some (.whole total), some "2024-03-01", false⟩] }

/-- A request to transfer fifty to the beneficiary. -/
def request : Fields :=
  [("toAccountNumber", .text "B1"), ("transferAmount", .text "50"),
    ("transferDescription", .text "rent")]

/-- What is transferred to the beneficiary. -/
def input (amount : Decimal.Representable) : TransferInput :=
  ⟨"B1", amount, "rent", ⟨2024, .march, 1⟩⟩

/-- The day's total is that of the one transfer. -/
theorem total_store (total : Int) (limit : Option Int) :
    (store total limit).bank.total (some 10) 2 ⟨2024, .march, 1⟩ = (Value.int total).toDecimal :=
  (Bank.total_whole [total] rfl (by cbv)).trans (by rw [List.sum_singleton])

/-- The user transfers from the only own account. -/
theorem sourceAccount_store :
    Template.sourceAccount (store 40 (some 50)) ⟨7, []⟩ = .ok source := by cbv

/-- The request keeps below a limit of fifty and a cap of ninety. -/
theorem authorize_store :
    (authorize (.ofStore (store 40 (some 50)) ⟨7, []⟩) ⟨7, []⟩ .tpt request ⟨2024, .march, 1⟩
      ⟨true, some 90⟩).outcome = .ok (.between source destination (input (.ofInt 50))) := by
  refine outcome_authorize_eq_ok.2 ⟨_, _, _, ?_, rfl⟩
  exact {
    request := by cbv
    taken := sourceAccount_store
    selected := ⟨[destination], by cbv, by cbv⟩
    owned := ⟨[source], by cbv, by cbv⟩
    offered := ⟨[destination], by cbv, by cbv⟩
    distinct := by decide
    limits := by
      rw [Authorization.outcome_checkLimits_tpt_eq_ok rfl]
      refine ⟨⟨some 50, by cbv, by simp [input]⟩,
        fun _ => ⟨.decimal (.ofInt 40), .ofInt 40, ?_, rfl, by decide +kernel⟩⟩
      exact congrArg (fun total => Except.mapError Fault.breakdown (Except.map Value.decimal total))
        (total_store 40 (some 50)) }

end Spent

open Spent in
/-- Half of the amount in another spelling, after less was spent, with a higher cap and without the
limit. -/
theorem spent_eased :
    (authorize (.ofStore (store 40 (some 50)) ⟨7, []⟩) ⟨7, []⟩ .tpt request ⟨2024, .march, 1⟩
      ⟨true, some 90⟩).outcome = .ok (.between source destination (input (.ofInt 50))) ∧
    (store 40 (some 50)).EasedTo (store 30 none) ⟨7, []⟩ ⟨2024, .march, 1⟩ ∧
    (authorize (.ofStore (store 30 none) ⟨7, []⟩) ⟨7, []⟩ .tpt
      (request.put "transferAmount" (.text "2.50E+1")) ⟨2024, .march, 1⟩ ⟨true, some 95⟩).outcome =
        .ok (.between source destination (input ⟨.finite false 250 (-1), by decide⟩)) := by
  have hstore : (store 40 (some 50)).EasedTo (store 30 none) ⟨7, []⟩ ⟨2024, .march, 1⟩ := by
    refine ⟨.cons ⟨rfl, nofun⟩ .nil, ⟨_, _, rfl⟩, fun source' hs total ht => ?_⟩
    cases sourceAccount_store.symm.trans hs
    cases (total_store 40 (some 50)).symm.trans ht
    exact ⟨.ofInt 30, total_store 30 none, .inr (by decide)⟩
  have hsettings : LimitSettings.EasedTo ⟨true, some 90⟩ ⟨true, some 95⟩ :=
    ⟨rfl, .inr ⟨90, rfl, 95, rfl, by decide, by decide⟩⟩
  refine ⟨authorize_store, hstore, authorize_eased authorize_store hstore hsettings
    (a := ⟨.finite false 250 (-1), by decide⟩) (by cbv) ?_ ?_⟩
  · norm_num [value, magnitude]
  · norm_num [Instruction.between, input, value, magnitude, Decimal.ofInt]

end Remit
