import Remit.Execution.Payload
import Remit.Proofs.Decimal.Plain
import Remit.Value.Amount

/-!
# The payload loses nothing

The amount of an execution request stands in plain notation and is read back as the amount of the
instruction, its day tells the day, and the rest is taken over as it is. So instructions of one
payload ask for one transfer (`Instruction.Same`), whatever their amounts were written like
(`Instruction.payload_faithful`).
-/

namespace Remit

/-! ## Days in words -/

/-- Equal texts agree on what stands before the first separator, and on what stands behind it. -/
theorem eq_of_append_separator {s : Char} {xs xs' ys ys' : List Char} (hxs : s ∉ xs)
    (hxs' : s ∉ xs') (h : xs ++ s :: ys = xs' ++ s :: ys') : xs = xs' ∧ ys = ys' := by
  induction xs generalizing xs' with
  | nil =>
    cases xs' with
    | nil => exact ⟨rfl, (List.cons.inj h).2⟩
    | cons x' xs' => exact absurd List.mem_cons_self ((List.cons.inj h).1 ▸ hxs')
  | cons x xs ih =>
    cases xs' with
    | nil => exact absurd List.mem_cons_self ((List.cons.inj h).1 ▸ hxs)
    | cons x' xs' =>
      obtain ⟨rfl, htail⟩ := List.cons.inj h
      obtain ⟨rfl, hys⟩ := ih (List.not_mem_of_not_mem_cons hxs) (List.not_mem_of_not_mem_cons hxs')
        htail
      exact ⟨rfl, hys⟩

namespace Month

/-- There is no blank in the name of a month. -/
theorem blank_notMem_name (m : Month) : ' ' ∉ m.name.toList := by
  cases m <;> decide

/-- The name of a month tells the month. -/
theorem eq_of_name_eq {m m' : Month} (h : m.name = m'.name) : m = m' := by
  have hfind : ∀ m : Month, all.find? (fun m' => m'.name == m.name) = some m := by
    intro m
    cases m <;> rfl
  have hm := hfind m
  rw [h, hfind m'] at hm
  exact (Option.some.inj hm).symm

end Month

namespace Date

/-- There is no blank in the digits of a number. -/
theorem blank_notMem_toDigits (n : Nat) : ' ' ∉ Nat.toDigits 10 n := by
  intro h
  exact absurd (Nat.isDigit_of_mem_toDigits (by decide) (by decide) h) (by decide)

/-- A day in words is its number, the name of the month and the year, with blanks between them. -/
theorem toList_inWords (d : Date) :
    d.inWords.toList =
      Nat.toDigits 10 d.day ++ ' ' :: (d.month.name.toList ++ ' ' :: Nat.toDigits 10 d.year) := by
  have hwords : d.inWords =
      toString d.day ++ " " ++ d.month.name ++ " " ++ toString d.year := rfl
  have hblank : " ".toList = [' '] := rfl
  rw [hwords]
  simp only [String.toList_append, Nat.toString_eq_ofList_toDigits, String.toList_ofList, hblank,
    List.append_assoc, List.cons_append, List.nil_append]

/-- A day in words tells the day. -/
theorem eq_of_inWords_eq {d d' : Date} (h : d.inWords = d'.inWords) : d = d' := by
  have hlist := congrArg String.toList h
  rw [toList_inWords, toList_inWords] at hlist
  obtain ⟨hday, hrest⟩ := eq_of_append_separator (blank_notMem_toDigits _) (blank_notMem_toDigits _)
    hlist
  obtain ⟨hmonth, hyear⟩ := eq_of_append_separator (Month.blank_notMem_name _)
    (Month.blank_notMem_name _) hrest
  obtain ⟨year, month, day⟩ := d
  obtain ⟨year', month', day'⟩ := d'
  obtain rfl := Decimal.digits_injective hday
  obtain rfl := Month.eq_of_name_eq (String.toList_inj.1 hmonth)
  obtain rfl := Decimal.digits_injective hyear
  rfl

end Date

/-! ## Amounts -/

namespace Value

/-- A text that tells an amount: it is plain notation and read as a decimal of the same value, and
as the amount itself if the exponent of that is not positive. -/
structure TellsAmount (text : String) (amount : Decimal.Representable) : Prop where
  isPlain : Decimal.IsPlain text.toList
  read : ∃ d, (Value.text text).amount? = some d ∧ d.val.value = amount.val.value ∧
    ∀ n c e, amount.val = .finite n c e → e ≤ 0 → d = amount

/-- The plain form of an amount tells it. -/
theorem tellsAmount_plain {d : Decimal.Representable} (hd : d.val.isFinite = true) :
    TellsAmount d.val.plain d where
  isPlain := Decimal.isPlain_plain hd
  read := by
    refine ⟨d.spelledOut, ?_, Decimal.value_spelledOut d.val, fun n c e hfinite he => ?_⟩
    · simp only [amount?, written?, Decimal.read?_plain hd]
      exact Option.filter_some_pos (Decimal.isFinite_spelledOut hd)
    · refine Subtype.ext ?_
      show d.val.spelledOut = d.val
      rw [hfinite, Decimal.spelledOut_of_nonpos he]

/-- A number that may be missing is told by its value. -/
theorem eq_of_ofInt?_eq {i j : Option Int} (h : ofInt? i = ofInt? j) : i = j := by
  cases i <;> cases j <;> cases h <;> rfl

end Value

/-! ## The payload -/

namespace Instruction

/-- Whether two instructions ask for one transfer. Their amounts may be written differently. -/
def Same (i j : Instruction) : Prop :=
  { i with amount := j.amount } = j ∧ i.amount.val.value = j.amount.val.value

/-- Payloads that are sent as one body are equal. -/
theorem payload_eq_of_toValue_eq {p p' : Payload} (h : p.toValue = p'.toValue) : p = p' := by
  obtain ⟨fo, fc, ft, fa, o, c, t, a, amount, day, description⟩ := p
  obtain ⟨fo', fc', ft', fa', o', c', t', a', amount', day', description'⟩ := p'
  simp only [Payload.toValue, Value.object.injEq, List.cons.injEq, Prod.mk.injEq, Value.int.injEq,
    Value.text.injEq, true_and, and_true] at h
  obtain ⟨hfo, hfc, rfl, hfa, ho, hc, rfl, ha, rfl, rfl, rfl⟩ := h
  obtain rfl := Value.eq_of_ofInt?_eq hfo
  obtain rfl := Value.eq_of_ofInt?_eq hfc
  obtain rfl := Value.eq_of_ofInt?_eq hfa
  obtain rfl := Value.eq_of_ofInt?_eq ho
  obtain rfl := Value.eq_of_ofInt?_eq hc
  obtain rfl := Value.eq_of_ofInt?_eq ha
  rfl

/-- Instructions of one payload ask for one transfer. -/
theorem same_of_payload_eq {i j : Instruction} (hi : i.amount.val.isFinite = true)
    (hj : j.amount.val.isFinite = true) (h : i.payload = j.payload) : Same i j := by
  have hamount : i.amount.val.plain = j.amount.val.plain := congrArg Payload.amount h
  refine ⟨?_, Decimal.value_eq_of_plain_eq hi hj hamount⟩
  obtain ⟨fo, fc, fa, ft, o, c, a, t, amount, day, description⟩ := i
  obtain ⟨fo', fc', fa', ft', o', c', a', t', amount', day', description'⟩ := j
  simp only [payload, Payload.mk.injEq] at h
  obtain ⟨rfl, rfl, rfl, rfl, rfl, rfl, rfl, rfl, -, hday, rfl⟩ := h
  obtain rfl := Date.eq_of_inWords_eq hday
  rfl

/-- The payload of an instruction loses nothing. Its amount is told in plain notation, its day is
told by the text of the day, and every instruction of that payload asks for the same transfer. -/
theorem payload_faithful {i : Instruction} (hfinite : i.amount.val.isFinite = true) :
    ∃ fs amount day, i.payload.toValue = .object fs ∧
      Fields.get fs "transferAmount" = .text amount ∧ Value.TellsAmount amount i.amount ∧
      Fields.get fs "transferDate" = .text day ∧ (∀ d : Date, d.inWords = day ↔ d = i.day) ∧
      ∀ j : Instruction, j.amount.val.isFinite = true →
        j.payload.toValue = i.payload.toValue → Same j i := by
  refine ⟨_, i.amount.val.plain, i.day.inWords, rfl, rfl, Value.tellsAmount_plain hfinite, rfl,
    fun d => ⟨Date.eq_of_inWords_eq, congrArg Date.inWords⟩, ?_⟩
  intro j hjfinite h
  exact same_of_payload_eq hjfinite hfinite (payload_eq_of_toValue_eq h)

/-- An instruction whose amount has zeros that only its exponent tells of. -/
def rent : Instruction where
  fromOfficeId := some 1
  fromClientId := some 2
  fromAccountId := some 10
  fromAccountType := 2
  toOfficeId := none
  toClientId := some 3
  toAccountId := some 20
  toAccountType := 1
  amount := ⟨.finite false 125 1, by decide⟩
  day := ⟨2024, .march, 1⟩
  description := "rent"

/-- Its payload tells the amount with the zeros spelled out, and an instruction that has it so asks
for the same transfer. -/
theorem payload_faithful_rent : rent.amount.val.isFinite = true ∧
    (∃ fs, rent.payload.toValue = .object fs ∧ Fields.get fs "transferAmount" = .text "1250" ∧
      Fields.get fs "transferDate" = .text "1 March 2024") ∧
    Value.TellsAmount "1250" rent.amount ∧
    Same { rent with amount := ⟨.finite false 1250 0, by decide⟩ } rent := by
  have hfinite : rent.amount.val.isFinite = true := rfl
  obtain ⟨fs, amount, day, hobject, hamount, htells, hday, -, hsame⟩ := payload_faithful hfinite
  cases hobject
  cases hamount
  cases hday
  exact ⟨hfinite, ⟨_, rfl, rfl, rfl⟩, htells, hsame _ rfl rfl⟩

end Instruction

end Remit
