import Remit.Proofs.Request.Beneficiary
import Remit.Proofs.Request.Transfer

/-!
# Every request is decided by its form

A request to add a beneficiary, to change one or to transfer money is refused exactly if it has an
unsupported parameter or one that breaks a rule, with every error of every parameter at once, and
what is read from it otherwise stands for the values that were given (`requests_decided`). Numbers
are read by their texts: a double by its shortest one, which may write another number than its own,
and a whole number that is too long to be written is none (`numbers_read_by_their_texts`).
-/

namespace Remit.Request

/-- Every request of each kind is decided by its form. -/
theorem requests_decided (user : Int) (fields : Fields) (day : Date) :
    newBeneficiaryForm.Decides fields (newBeneficiary user fields) (ReadsNew user fields) ∧
    beneficiaryUpdateForm.Decides fields (beneficiaryUpdate fields) (ReadsUpdate fields) ∧
    transferForm.Decides fields (transferInput fields day) (ReadsTransfer fields day) :=
  ⟨newBeneficiaryForm_decides user fields, beneficiaryUpdateForm_decides fields,
    transferForm_decides fields day⟩

/-- A limit on its own is read as the number that it stands for. -/
theorem beneficiaryUpdate_limit {v : Value} {i : Int} (hv : v.Denotes i) (hi : 0 < i) :
    beneficiaryUpdate [("transferLimit", v)] = .ok ⟨.absent, .given (some i)⟩ := by
  have hallows : ∀ r ∈ transferLimitRules, r.Allows v := by
    intro r hr
    simp only [transferLimitRules, List.mem_cons, List.not_mem_nil, or_false] at hr
    rcases hr with rfl | rfl | rfl
    · trivial
    · exact .inr ⟨i, hv⟩
    · exact .inr ⟨i, by exact_mod_cast hi, hv⟩
  have hdecides := beneficiaryUpdateForm_decides [("transferLimit", v)]
  obtain ⟨⟨name, limit⟩, hu, hname, hlimit⟩ := hdecides.read fun hrefused => by
    rcases hdecides.refused_iff.1 hrefused with
      ⟨f, hf, hunsupported⟩ | ⟨p, hp, w, hw, r, hr, hbroken⟩
    · rw [List.mem_singleton.1 hf] at hunsupported
      exact hunsupported (.tail _ (.head _))
    · simp only [beneficiaryUpdateForm, List.mem_cons, List.not_mem_nil, or_false] at hp
      rcases hp with rfl | rfl
      · cases hw
      · cases hw
        exact hbroken (hallows r hr)
  cases name with
  | given s =>
    obtain ⟨w, hw, -⟩ := hname
    cases hw
  | absent =>
    cases limit with
    | absent => cases hlimit
    | given o =>
      obtain ⟨w, hw, hread⟩ := hlimit
      cases hw
      cases o with
      | none => exact absurd hread (by simp [Value.IsLimit, hv.isNull_eq])
      | some j =>
        obtain rfl : i = j := by exact_mod_cast hv.eq hread.2
        exact hu

/-- A limit that cannot be written is refused. -/
theorem refused_of_long {i : Int} (hi : ¬ Text.IsShort i) :
    ∃ errors, beneficiaryUpdate [("transferLimit", .int i)] =
      .error (.refusal (.invalidRequest errors)) := by
  have hparameter : ("transferLimit", transferLimitRules) ∈ beneficiaryUpdateForm.parameters := by
    simp [beneficiaryUpdateForm]
  refine (beneficiaryUpdateForm_decides _).refused_iff.2
    (.inr ⟨_, hparameter, .int i, rfl, .integer, by simp [transferLimitRules], ?_⟩)
  rintro (h | ⟨j, hj⟩)
  · cases h
  · exact hi hj.isShort

/-- The double nearest to `10 ^ 23` lies below it, and is read as a limit of `10 ^ 23`; the least
whole number that is too long to be written is refused as a limit. -/
theorem numbers_read_by_their_texts :
    (beneficiaryUpdate [("transferLimit", .double (.finite false 5960464477539062 24))] =
      .ok ⟨.absent, .given (some (10 ^ 23))⟩ ∧
    ∃ d, (Value.double (.finite false 5960464477539062 24)).number? = some d ∧
      d.isFinite = true ∧ d.value ≠ 10 ^ 23) ∧
    ∃ errors, beneficiaryUpdate [("transferLimit", .int (10 ^ Text.maxDigits : Nat))] =
      .error (.refusal (.invalidRequest errors)) := by
  have htext : (Double.finite false 5960464477539062 24).text = "1e+23" := by rfl
  have hread : (Value.double (.finite false 5960464477539062 24)).amount?.filter (·.val.isWhole) =
      some ⟨.finite false 1 23, by decide⟩ := by
    rw [Value.amount?, Value.written?, htext]
    rfl
  have hlong : ¬ Text.IsShort (10 ^ Text.maxDigits : Nat) := fun hshort =>
    Nat.lt_irrefl _ ((Decimal.digitCount_le_iff (by decide)).1 hshort)
  refine ⟨⟨beneficiaryUpdate_limit (Value.denotes_int_iff.2 ⟨_, hread, by decide⟩) (by norm_num),
    .ofInt 99999999999999991611392, by rfl, rfl, ?_⟩, refused_of_long hlong⟩
  rw [Decimal.value_ofInt]
  norm_num

end Remit.Request
