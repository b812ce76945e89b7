import Mathlib
import Remit.Proofs.Decimal.Whole
import Remit.Proofs.Store.Rows
import Remit.Store.Ledger

/-!
# What the total of a day adds up

A ledger keeps an amount in units of the smallest double. A total of whole amounts is nevertheless
their exact sum, whatever its size (`LedgerAmount.sum_whole`, `Bank.total_whole`).

Which amounts are added up is told by `Bank.Counted`, transaction by transaction: the details of a
transfer are found by their id, so that a transaction counts once or not at all
(`Bank.flatMap_counts`). The total is the sum over the transactions that count (`Bank.spent`). It
therefore depends neither on the order of rows nor on what else the tables hold
(`Bank.total_spent`).
-/

namespace Remit

namespace LedgerAmount

/-- A whole amount is a multiple of one. -/
theorem units_whole (i : Int) : units (whole i) = i * units (whole 1) := by
  show i * _ = i * (1 * _)
  rw [Int.one_mul]

/-- Whole amounts in units add up to their sum in units. -/
theorem foldr_units_whole (is : List Int) :
    ((is.map whole).map units).foldr (· + ·) 0 = is.sum * units (whole 1) := by
  induction is with
  | nil => exact (Int.zero_mul _).symm
  | cons i is ih =>
    rw [List.map_cons, List.map_cons, List.foldr_cons, ih, List.sum_cons, units_whole, Int.add_mul]

/-- The sum of whole amounts is whole. -/
theorem sum_whole (is : List Int) : sum (is.map whole) = .int is.sum := by
  have hwhole : (is.map whole).all isWhole = true := by simp [isWhole]
  have hpos : ∀ k : Nat, (0 : Int) < 2 ^ k := fun k => Int.pow_pos (by decide)
  have hunit : ∀ i : Int, i * units (whole 1) / 2 ^ (1074 : Nat) = i := by
    intro i
    rw [units, Int.one_mul]
    exact Int.mul_ediv_cancel i (Int.ne_of_gt (hpos _))
  simp only [sum, hwhole, if_true, foldr_units_whole]
  exact congrArg Value.int (hunit _)

end LedgerAmount

/-- A total of whole amounts is their sum. -/
theorem Bank.total_whole {b : Bank} {account type : Int} {day : Date} (is : List Int)
    (ha : fitsColumn account = true) (h : b.amounts (some account) type day = is.map .whole) :
    b.total (some account) type day = (Value.int is.sum).toDecimal := by
  rw [total, h, LedgerAmount.sum_whole]
  show (do let _ ← some <$> column account; _) = _
  rw [column_of_fits ha]
  rfl

/-! ## The transactions that count -/

/-- A transfer from an account, among those of a kind, to another client, where both clients are
known. Every kind but loans counts as savings. -/
def TransferDetail.Leaves (d : TransferDetail) (account type : Int) : Prop :=
  d.fromClientId ≠ none ∧ d.toClientId ≠ none ∧ d.fromClientId ≠ d.toClientId ∧
    (if type = AccountType.loan.number then d.fromLoanId else d.fromSavingsId) = some account

instance (d : TransferDetail) (account type : Int) : Decidable (d.Leaves account type) :=
  inferInstanceAs (Decidable (_ ∧ _ ∧ _ ∧ _))

/-- The amount of a transaction, if it is a whole number. -/
def Transaction.whole (t : Transaction) : Int :=
  match t.amount with
  | some (.whole i) => i
  | _ => 0

namespace Bank

variable {b b' : Bank} {account type : Int} {day : Date}

/-- A transaction that took something from an account to another client on a day: it was not
reversed, it is dated that day, and its details are there and tell so. -/
def Counted (b : Bank) (account type : Int) (day : Date) (t : Transaction) : Prop :=
  t.isReversed = false ∧ t.day = some day.iso ∧
    ∃ d ∈ b.details, t.detailId = some d.id ∧ d.Leaves account type

instance : DecidablePred (b.Counted account type day) := fun _ =>
  inferInstanceAs (Decidable (_ ∧ _ ∧ ∃ d ∈ b.details, _))

/-- The sum of the transactions that count, each of them once. -/
def spent (b : Bank) (account type : Int) (day : Date) : Int :=
  ((b.transactions.filter (b.Counted account type day)).map Transaction.whole).sum

/-- The amounts of the transactions that count are whole numbers, or missing. -/
def CountsWhole (b : Bank) (account type : Int) (day : Date) : Prop :=
  ∀ t ∈ b.transactions, b.Counted account type day t → ∀ d, t.amount ≠ some (.real d)

/-- Whatever is added up of the transactions that count fits a column, so that a sum stays within it
at every row, in any order of rows. -/
def SumsFit (b : Bank) (account type : Int) (day : Date) : Prop :=
  ∀ ts : List Transaction, ts.Subperm (b.transactions.filter (b.Counted account type day)) →
    fitsColumn (ts.map Transaction.whole).sum = true

/-- If all sums of some of the amounts fit a column, the sum of all does. -/
theorem SumsFit.spent (h : b.SumsFit account type day) :
    fitsColumn (b.spent account type day) = true :=
  h _ (List.Subperm.refl _)

/-- Unless an amount is negative, only the sum of all of them has to fit. -/
theorem sumsFit_of_nonneg (hnonneg : ∀ t ∈ b.transactions, 0 ≤ t.whole)
    (h : fitsColumn (b.spent account type day) = true) : b.SumsFit account type day := by
  rintro ts ⟨part, hperm, hpart⟩
  have hle : (part.map Transaction.whole).sum ≤ b.spent account type day := by
    refine (hpart.map _).sum_le_sum fun i hi => ?_
    obtain ⟨t, ht, rfl⟩ := List.mem_map.1 hi
    exact hnonneg t (List.mem_filter.1 ht).1
  have hpos : 0 ≤ (part.map Transaction.whole).sum := by
    refine List.sum_nonneg fun i hi => ?_
    obtain ⟨t, ht, rfl⟩ := List.mem_map.1 hi
    exact hnonneg t (List.mem_filter.1 (hpart.subset ht)).1
  rw [← (hperm.map _).sum_eq]
  simp only [fitsColumn, Bool.and_eq_true, decide_eq_true_eq] at h ⊢
  omega

/-- What is counted: a transfer of the day that was not reversed and left the account. -/
theorem counts_iff {t : Transaction} {d : TransferDetail} :
    counts (some account) type day t d = true ↔
      t.isReversed = false ∧ t.day = some day.iso ∧ t.detailId = some d.id ∧
        d.Leaves account type := by
  simp [counts, isThirdParty, sourceOf, TransferDetail.Leaves, Option.isSome_iff_ne_none, and_assoc]

/-- A transaction counts once or not at all. -/
theorem flatMap_counts (hids : (b.details.map (·.id)).Nodup) (t : Transaction) :
    ((b.details.filter (counts (some account) type day t)).flatMap fun _ => t.amount.toList) =
      if b.Counted account type day t then t.amount.toList else [] := by
  split
  · next hcounted =>
    obtain ⟨hreversed, hday, d, hd, hid, hleaves⟩ := hcounted
    -- The details are the only ones of their id.
    have honly : ∀ d' ∈ b.details, counts (some account) type day t d' = (d' == d) := by
      intro d' hd'
      rw [Bool.eq_iff_iff, beq_iff_eq, counts_iff]
      constructor
      · rintro ⟨-, -, hid', -⟩
        exact eq_of_id_eq hids hd' hd (Option.some_inj.1 (hid'.symm.trans hid))
      · rintro rfl
        exact ⟨hreversed, hday, hid, hleaves⟩
    have hone : b.details.filter (counts (some account) type day t) = [d] := by
      rw [List.filter_congr honly, List.filter_beq,
        List.count_eq_one_of_mem (List.Nodup.of_map _ hids) hd]
      rfl
    rw [hone]
    simp
  · next hnot =>
    have hnone : b.details.filter (counts (some account) type day t) = [] := by
      refine List.filter_eq_nil_iff.2 fun d hd hcounts => hnot ?_
      obtain ⟨hreversed, hday, hid, hleaves⟩ := counts_iff.1 hcounts
      exact ⟨hreversed, hday, d, hd, hid, hleaves⟩
    rw [hnone]
    rfl

/-- Amounts that are whole where they count add up to the whole amounts that count. -/
theorem exists_amounts (ts : List Transaction) (p : Transaction → Prop) [DecidablePred p]
    (h : ∀ t ∈ ts, p t → ∀ d, t.amount ≠ some (.real d)) :
    ∃ is : List Int, (ts.flatMap fun t => if p t then t.amount.toList else []) = is.map .whole ∧
      is.sum = ((ts.filter p).map Transaction.whole).sum := by
  induction ts with
  | nil => exact ⟨[], rfl, rfl⟩
  | cons t ts ih =>
    obtain ⟨is, his, hsum⟩ := ih fun t' ht' => h t' (List.mem_cons_of_mem _ ht')
    by_cases hp : p t
    · cases hamount : t.amount with
      | none =>
        exact ⟨is, by simp [his, hp, hamount], by simp [hsum, hp, Transaction.whole, hamount]⟩
      | some a =>
        cases a with
        | real d => exact absurd hamount (h t List.mem_cons_self hp d)
        | whole i =>
          exact ⟨i :: is, by simp [his, hp, hamount],
            by simp [hsum, hp, Transaction.whole, hamount]⟩
    · exact ⟨is, by simp [his, hp], by simp [hsum, hp]⟩

/-- A whole number of the width of a column is short: it has at most 19 digits. -/
theorem isShort_of_fits {i : Int} (h : fitsColumn i = true) : Text.IsShort i := by
  have hdigits : Text.digitCount i.natAbs ≤ 19 := by
    rw [Decimal.digitCount_le_iff (by decide)]
    simp only [fitsColumn, Bool.and_eq_true, decide_eq_true_eq] at h
    omega
  exact hdigits.trans (by decide)

/-- A short whole number is taken over as it is. -/
theorem toDecimal_of_isShort {i : Int} (h : Text.IsShort i) :
    (Value.int i).toDecimal = .ok (.ofInt i h) := by
  simp [Value.toDecimal, Value.written?, h]

/-- The total of whole amounts is the sum of the transactions that count. -/
theorem total_eq_spent (hids : (b.details.map (·.id)).Nodup) (ha : fitsColumn account = true)
    (hwhole : b.CountsWhole account type day)
    (hsum : fitsColumn (b.spent account type day) = true) :
    b.total (some account) type day =
      .ok (.ofInt (b.spent account type day) (isShort_of_fits hsum)) := by
  have hcounted : b.amounts (some account) type day = (byId (·.id) b.transactions).flatMap fun t =>
      if b.Counted account type day t then t.amount.toList else [] := by
    simp only [amounts, flatMap_counts hids]
  obtain ⟨is, his, hspent⟩ := exists_amounts (byId (·.id) b.transactions)
    (b.Counted account type day) fun t ht => hwhole t (mem_byId.1 ht)
  have horder : is.sum = b.spent account type day := by
    rw [hspent]
    exact (((List.mergeSort_perm _ _).filter _).map _).sum_eq
  rw [total_whole is ha (hcounted.trans his), horder, toDecimal_of_isShort (isShort_of_fits hsum)]

/-- An account whose number fits no column is not looked for. -/
theorem total_of_not_fits (ha : fitsColumn account = false) :
    b.total (some account) type day = .error .integerTooWide := by
  rw [total]
  show (do let _ ← some <$> column account; _) = _
  rw [column_of_not_fits ha]
  rfl

/-- Banks in which the same is spent have the same total. -/
theorem total_congr (hids : (b.details.map (·.id)).Nodup) (hids' : (b'.details.map (·.id)).Nodup)
    (hwhole : b.CountsWhole account type day) (hwhole' : b'.CountsWhole account type day)
    (hspent : b'.spent account type day = b.spent account type day)
    (hsum : fitsColumn (b.spent account type day) = true) :
    b'.total (some account) type day = b.total (some account) type day := by
  cases ha : fitsColumn account with
  | false => rw [total_of_not_fits ha, total_of_not_fits ha]
  | true =>
    rw [total_eq_spent hids ha hwhole hsum, total_eq_spent hids' ha hwhole' (hspent ▸ hsum)]
    simp only [hspent]

/-! ## What makes no difference -/

/-- A bank after more transfers, with their details. -/
def adding (b : Bank) (ds : List TransferDetail) (ts : List Transaction) : Bank :=
  { b with details := b.details ++ ds, transactions := b.transactions ++ ts }

/-- Which details there are decides what counts, and not their order. -/
theorem counted_perm (hd : b'.details.Perm b.details) {t : Transaction} :
    b'.Counted account type day t ↔ b.Counted account type day t := by
  simp only [Counted, hd.mem_iff]

/-- Rows in another order come to the same sum. -/
theorem spent_perm (hd : b'.details.Perm b.details) (ht : b'.transactions.Perm b.transactions) :
    b'.spent account type day = b.spent account type day := by
  have hcounted : b'.transactions.filter (b'.Counted account type day) =
      b'.transactions.filter (b.Counted account type day) :=
    List.filter_congr fun t _ => decide_eq_decide.2 (counted_perm hd)
  rw [spent, hcounted]
  exact ((ht.filter _).map _).sum_eq

/-- Details that a transaction does not refer to make no difference to it. -/
theorem counted_adding {ds : List TransferDetail} {ts : List Transaction} {t : Transaction}
    (h : ∀ d ∈ ds, t.detailId ≠ some d.id) :
    (b.adding ds ts).Counted account type day t ↔ b.Counted account type day t := by
  refine and_congr_right fun _ => and_congr_right fun _ => ?_
  constructor
  · rintro ⟨d, hd, hid, hleaves⟩
    rcases List.mem_append.1 hd with hd | hd
    · exact ⟨d, hd, hid, hleaves⟩
    · exact absurd hid (h d hd)
  · rintro ⟨d, hd, hid, hleaves⟩
    exact ⟨d, List.mem_append_left _ hd, hid, hleaves⟩

/-- Transactions that do not count add nothing. -/
theorem spent_adding {ds : List TransferDetail} {ts : List Transaction}
    (hnew : ∀ t ∈ b.transactions, ∀ d ∈ ds, t.detailId ≠ some d.id)
    (h : ∀ t ∈ ts, ¬ (b.adding ds ts).Counted account type day t) :
    (b.adding ds ts).spent account type day = b.spent account type day := by
  have hold : b.transactions.filter ((b.adding ds ts).Counted account type day) =
      b.transactions.filter (b.Counted account type day) :=
    List.filter_congr fun t ht => decide_eq_decide.2 (counted_adding (hnew t ht))
  have hadded : ts.filter ((b.adding ds ts).Counted account type day) = [] :=
    List.filter_eq_nil_iff.2 fun t ht => by simpa using h t ht
  have hfilter : (b.adding ds ts).transactions.filter ((b.adding ds ts).Counted account type day) =
      b.transactions.filter (b.Counted account type day) := by
    rw [← hold]
    show (b.transactions ++ ts).filter _ = _
    rw [List.filter_append, hadded, List.append_nil]
  rw [spent, spent, hfilter]

/-- For an account whose number fits a column, the total of a day is the exact sum of the
transactions that count, zero if there are none; another account is not looked for. The order of
rows makes no difference to this, and neither do further transfers that were reversed, are of
another day, or have no details by which they left the account for another client. -/
theorem total_spent (hids : (b.details.map (·.id)).Nodup) (hwhole : b.CountsWhole account type day)
    (hsums : b.SumsFit account type day) :
    (fitsColumn account = true →
      b.total (some account) type day =
        .ok (.ofInt (b.spent account type day) (isShort_of_fits hsums.spent)) ∧
      ((∀ t ∈ b.transactions, ¬ b.Counted account type day t) →
        b.total (some account) type day = .ok .zero)) ∧
    (fitsColumn account = false → b.total (some account) type day = .error .integerTooWide) ∧
    (∀ b' : Bank, b'.details.Perm b.details → b'.transactions.Perm b.transactions →
      b'.total (some account) type day = b.total (some account) type day) ∧
    ∀ ds ts, ((b.details ++ ds).map (·.id)).Nodup →
      (∀ t ∈ b.transactions, ∀ d ∈ ds, t.detailId ≠ some d.id) →
      (∀ t ∈ ts, t.isReversed = true ∨ t.day ≠ some day.iso ∨
        ∀ d ∈ b.details ++ ds, t.detailId = some d.id → ¬ d.Leaves account type) →
      (b.adding ds ts).total (some account) type day = b.total (some account) type day := by
  have hsum := hsums.spent
  refine ⟨fun ha => ?_, total_of_not_fits, fun b' hd ht => ?_, fun ds ts hids' hnew hts => ?_⟩
  · have htotal := total_eq_spent hids ha hwhole hsum
    refine ⟨htotal, fun hnone => ?_⟩
    have hzero : b.spent account type day = 0 := by
      have hempty : b.transactions.filter (b.Counted account type day) = [] :=
        List.filter_eq_nil_iff.2 fun t ht => by simpa using hnone t ht
      rw [spent, hempty]
      rfl
    rw [htotal]
    simp only [hzero]
    rfl
  · refine total_congr hids ?_ hwhole ?_ (spent_perm hd ht) hsum
    · exact (hd.map _).nodup_iff.2 hids
    · exact fun t htm hcounted => hwhole t (ht.mem_iff.1 htm) ((counted_perm hd).1 hcounted)
  · have hnot : ∀ t ∈ ts, ¬ (b.adding ds ts).Counted account type day t := by
      rintro t ht ⟨hreversed, hday, d, hd, hid, hleaves⟩
      rcases hts t ht with h | h | h
      · cases hreversed.symm.trans h
      · exact h hday
      · exact h d hd hid hleaves
    refine total_congr hids hids' hwhole (fun t ht hcounted => ?_) (spent_adding hnew hnot) hsum
    rcases List.mem_append.1 ht with ht | ht
    · exact hwhole t ht ((counted_adding (hnew t ht)).1 hcounted)
    · exact absurd hcounted (hnot t ht)

/-- A ledger with a transfer of each kind: from a savings account, from a loan of the same number,
to the same client, and from a client that is not known. -/
def mixed : Bank where
  details := [⟨1, some 1, some 2, some 10, none⟩, ⟨2, some 1, some 2, none, some 10⟩,
    ⟨3, some 1, some 1, some 10, none⟩, ⟨4, none, some 2, some 10, none⟩]
  transactions := [⟨1, some 1, some (.whole 250), some "2024-03-01", false⟩,
    ⟨2, some 2, some (.whole 30), some "2024-03-01", false⟩,
    ⟨3, some 3, some (.whole 700), some "2024-03-01", false⟩,
    ⟨4, some 4, some (.whole 5), some "2024-03-01", false⟩,
    ⟨5, some 1, some (.whole 150), some "2024-03-01", false⟩]

/-- Two of its transactions count for the savings account; one that was reversed and one without
details make no difference. -/
theorem total_spent_mixed :
    (mixed.details.map (·.id)).Nodup ∧ mixed.CountsWhole 10 2 ⟨2024, .march, 1⟩ ∧
    mixed.SumsFit 10 2 ⟨2024, .march, 1⟩ ∧
    mixed.total (some 10) 2 ⟨2024, .march, 1⟩ = .ok (.ofInt 400) ∧
    (mixed.adding [] [⟨6, some 1, some (.whole 900), some "2024-03-01", true⟩,
      ⟨7, some 9, some (.whole 8), some "2024-03-01", false⟩]).total (some 10) 2 ⟨2024, .march, 1⟩ =
        .ok (.ofInt 400) := by
  have hids : (mixed.details.map (·.id)).Nodup := by decide
  have hspent : mixed.spent 10 2 ⟨2024, .march, 1⟩ = 400 := by decide +kernel
  have hwhole : mixed.CountsWhole 10 2 ⟨2024, .march, 1⟩ := by
    intro t ht _ d
    simp only [mixed, List.mem_cons, List.not_mem_nil, or_false] at ht
    rcases ht with rfl | rfl | rfl | rfl | rfl <;> nofun
  have hsums : mixed.SumsFit 10 2 ⟨2024, .march, 1⟩ := by
    refine sumsFit_of_nonneg (by decide) ?_
    rw [hspent]
    decide
  obtain ⟨hfits, -, -, hadding⟩ := total_spent hids hwhole hsums
  have htotal : mixed.total (some 10) 2 ⟨2024, .march, 1⟩ = .ok (.ofInt 400) := by
    rw [(hfits (by decide)).1]
    simp only [hspent]
  refine ⟨hids, hwhole, hsums, htotal,
    (hadding [] _ (by simpa using hids) (by simp) ?_).trans htotal⟩
  intro t ht
  simp only [List.mem_cons, List.not_mem_nil, or_false] at ht
  rcases ht with rfl | rfl
  · exact .inl rfl
  · exact .inr (.inr (by decide))

/-- An account whose number fits no column has no transfers, and no total. -/
theorem wide_account_not_summed :
    (∀ t ∈ ({} : Bank).transactions,
      ¬ ({} : Bank).Counted 9223372036854775808 2 ⟨2024, .march, 1⟩ t) ∧
    ({} : Bank).total (some 9223372036854775808) 2 ⟨2024, .march, 1⟩ ≠ .ok .zero := by
  refine ⟨nofun, ?_⟩
  rw [total_of_not_fits (by decide)]
  nofun

end Bank

end Remit
