import Mathlib.Data.List.Induction
import Remit.Proofs.Request.Check

/-!
# The course of a check

A check goes through its rules from the front. Each rule looks at the value that the rules before it
have left (`Check.Meets`), and what it finds there decides the step (`Check.Step`): the check goes
on, it ends with a null value that is accepted, or it ends with an error. What a rule asks of the
value that it looks at is `Rule.Holds`; this is not `Rule.Allows`, which is about the value that the
parameter was given.

So a check adds at most one error, that of the first rule that does not hold, and from there on it
stays as it is. Without an error every rule that was not skipped holds of the value that it looked
at, as long as no rule that asks for a number above zero looks at a double that is no number
(`Check.reports_once`): such a double is not above zero, but the rule does not notice
(`Check.undefined_passes`).
-/

namespace Remit

/-- A number above zero, which may be infinite. -/
def Decimal.IsPositive (d : Decimal) : Prop := d = .infinite false ∨ 0 < d.value

/-- A decimal that is compared with zero is above zero exactly if it is not at most zero. -/
theorem Decimal.isPositive_iff {d : Decimal} {b : Bool} (h : d.le? .zero = .ok b) :
    d.IsPositive ↔ b = false := by
  cases d with
  | finite n c e =>
    rw [le?_zero rfl] at h
    cases h
    simp [IsPositive]
  | infinite n =>
    cases h
    cases n <;> simp [IsPositive, value, infiniteOrder]
  | nan n s p => cases h

/-- What is compared with zero is a number, or a double that is none. -/
theorem Value.atMostZero_cases {v : Value} {b : Bool} (h : v.atMostZero = .ok b) :
    v = .double .nan ∧ b = false ∨ ∃ d, v.number? = some d ∧ d.le? .zero = .ok b := by
  unfold atMostZero at h
  split at h
  · cases h
    exact .inl ⟨rfl, rfl⟩
  · split at h
    · next d hd => exact .inr ⟨d, hd, mapError_eq_ok.1 h⟩
    · cases h

/-- A value is found in a list exactly if one of the list equals it. -/
theorem Value.elem?_eq_ok {v : Value} {ws : List Value} {b : Bool} (h : v.elem? ws = .ok b) :
    b = true ↔ ∃ w ∈ ws, w.equal? v = .ok true := by
  unfold elem? at h
  induction ws with
  | nil =>
    cases h
    simp
  | cons w ws ih =>
    rw [List.anyM_cons] at h
    obtain ⟨b', hb', h⟩ := bind_eq_ok.1 h
    cases b' with
    | true =>
      cases h
      exact ⟨fun _ => ⟨w, .head _, hb'⟩, fun _ => rfl⟩
    | false =>
      rw [ih h]
      simp [hb']

namespace Rule

/-- What a rule asks of the value that it looks at. Only the rules that ask for a value do not hold
of null. -/
def Holds : Rule → Value → Prop
  | oneOf allowed, v => v.isNull = true ∨ ∃ w ∈ allowed, w.equal? v = .ok true
  | greaterThanZero, v => v.isNull = true ∨ ∃ d, v.number? = some d ∧ d.IsPositive
  | positiveAmount, v => v.isNull = true ∨ ∃ d, v = .decimal d ∧ d.val.IsPositive
  | r, v => r.Allows v

/-- A rule that asks for a number above zero does not notice a double that is no number. -/
def Overlooks (r : Rule) (v : Value) : Prop := r = greaterThanZero ∧ v = .double .nan

/-- What a verdict says of the value that a rule looked at. -/
inductive Judged (name : String) (r : Rule) (v : Value) : Verdict → Prop where
  | keeps : r.Holds v ∨ r.Overlooks v → Judged name r v .keep
  | reads {w : Value} : r.Holds v → Judged name r v (.become w)
  | rejects {suffix message : String} : ¬ r.Holds v → r.rejection name = some (suffix, message) →
      Judged name r v (.reject suffix message)

variable {name : String} {r : Rule} {v : Value} {verdict : Verdict}

/-- A double that is no number is not above zero. -/
theorem Overlooks.not_holds (h : r.Overlooks v) : ¬ r.Holds v := by
  obtain ⟨rfl, rfl⟩ := h
  rintro (hnull | ⟨d, hd, hinfinite | hpos⟩)
  · cases hnull
  · cases hd
    cases hinfinite
  · cases hd
    exact lt_irrefl 0 hpos

/-- Null is kept by every rule that does not ask for a value. -/
theorem judge_null (hn : r ≠ .notNull) (hb : r ≠ .notBlank) :
    r.judge name .null = .ok .keep ∧ r.Holds .null := by
  cases r with
  | notNull => exact absurd rfl hn
  | notBlank => exact absurd rfl hb
  | ignoreIfNull => exact ⟨rfl, trivial⟩
  | _ => exact ⟨rfl, .inl rfl⟩

/-- The verdict of a rule that asks for a number above zero, on one. -/
theorem judged_notPositive {d : Decimal} {b : Bool} (hle : d.le? .zero = .ok b)
    (hrejection : r.rejection name = some ("not.greater.than.zero",
      s!"The parameter `{name}` must be greater than 0."))
    (hiff : r.Holds v ↔ d.IsPositive) :
    r.Judged name v (if b then notPositive name else .keep) := by
  rw [Decimal.isPositive_iff hle] at hiff
  cases b with
  | true => exact .rejects (fun hr => nomatch hiff.1 hr) hrejection
  | false => exact .keeps (.inl (hiff.2 rfl))

/-- What a rule finds in the value that a parameter was given is its verdict. -/
theorem Finds.judged {Q : Value → Prop} (hf : r.Finds name v Q v) (hiff : r.Holds v ↔ r.Allows v)
    (h : r.judge name v = .ok verdict) : r.Judged name v verdict := by
  cases hf with
  | keeps hallows hjudge _ =>
    cases hjudge.symm.trans h
    exact .keeps (.inl (hiff.2 hallows))
  | reads hallows hjudge _ =>
    cases hjudge.symm.trans h
    exact .reads (hiff.2 hallows)
  | rejects hallows hrejection hjudge =>
    cases hjudge.symm.trans h
    exact .rejects (fun hr => hallows (hiff.1 hr)) hrejection

/-- The verdict of a rule on the length of a text. -/
theorem judged_maxLength {limit : Int} (hn : v.isNull = false)
    (h : (maxLength limit).judge name v = .ok verdict) :
    (maxLength limit).Judged name v verdict := by
  have hiff : (maxLength limit).Holds v ↔
      ∃ shown, v.display? = some shown ∧ (shown.length : Int) ≤ limit := by
    simp [Holds, Allows, hn]
  rw [judge] at h
  · split at h
    · cases h
    · next shown hshown =>
      cases h
      by_cases hl : (shown.length : Int) ≤ limit
      · rw [if_pos hl]
        exact .keeps (.inl (hiff.2 ⟨shown, hshown, hl⟩))
      · rw [if_neg hl]
        refine .rejects (fun hr => ?_) rfl
        obtain ⟨shown', hshown', hl'⟩ := hiff.1 hr
        cases hshown.symm.trans hshown'
        exact hl hl'
  · rintro rfl
    cases hn

/-- The verdict of a rule on the values that are allowed. -/
theorem judged_oneOf {allowed : List Value} (hn : v.isNull = false)
    (h : (oneOf allowed).judge name v = .ok verdict) :
    (oneOf allowed).Judged name v verdict := by
  have hiff : (oneOf allowed).Holds v ↔ ∃ w ∈ allowed, w.equal? v = .ok true := by
    simp [Holds, hn]
  rw [judge] at h
  · obtain ⟨b, hb, h⟩ := bind_eq_ok.1 h
    have hfound := Value.elem?_eq_ok (mapError_eq_ok.1 hb)
    cases b with
    | true =>
      cases h
      exact .keeps (.inl (hiff.2 (hfound.1 rfl)))
    | false =>
      have hnot : ¬ (oneOf allowed).Holds v := by
        intro hr
        cases hfound.2 (hiff.1 hr)
      simp only [Bool.false_eq_true, if_false] at h
      split at h
      · cases h
      · next shown hshown =>
        cases h
        exact .rejects hnot (by simp only [rejection, Refusal.shown, hshown, Option.getD_some])
  · rintro rfl
    cases hn

/-- The verdict of the rule that a number is above zero. -/
theorem judged_greaterThanZero (hn : v.isNull = false)
    (h : greaterThanZero.judge name v = .ok verdict) :
    greaterThanZero.Judged name v verdict := by
  have hiff : greaterThanZero.Holds v ↔ ∃ d, v.number? = some d ∧ d.IsPositive := by
    simp [Holds, hn]
  rw [judge] at h
  · obtain ⟨b, hb, h⟩ := bind_eq_ok.1 h
    cases h
    rcases Value.atMostZero_cases hb with ⟨hv, rfl⟩ | ⟨d, hd, hle⟩
    · exact .keeps (.inr ⟨rfl, hv⟩)
    · exact judged_notPositive hle rfl (by simp [Holds, hn, hd])
  · rintro rfl
    cases hn

/-- The verdict of the rule that an amount is above zero. -/
theorem judged_positiveAmount (hn : v.isNull = false)
    (h : positiveAmount.judge name v = .ok verdict) :
    positiveAmount.Judged name v verdict := by
  cases v with
  | null => cases hn
  | decimal d =>
    obtain ⟨b, hb, h⟩ := bind_eq_ok.1 h
    cases h
    exact judged_notPositive (mapError_eq_ok.1 hb) rfl (by simp [Holds, Value.isNull])
  | _ =>
    cases h
    exact .rejects (by simp [Holds, Value.isNull]) rfl

/-- A rule that comes to a verdict keeps or reads a value that it holds of, or overlooks, and
rejects any other one. -/
theorem judged (h : r.judge name v = .ok verdict) : r.Judged name v verdict := by
  by_cases hn : v.isNull = true
  · obtain rfl := Value.isNull_iff.1 hn
    by_cases hr : r = .notNull ∨ r = .notBlank
    · rcases hr with rfl | rfl
      · exact finds_notNull.judged .rfl h
      · exact finds_notBlank.judged .rfl h
    · obtain ⟨hjudge, hholds⟩ : r.judge name .null = .ok .keep ∧ r.Holds .null :=
        judge_null (fun he => hr (.inl he)) fun he => hr (.inr he)
      cases hjudge.symm.trans h
      exact .keeps (.inl hholds)
  · rw [Bool.not_eq_true] at hn
    cases r with
    | ignoreIfNull =>
      cases h
      exact .keeps (.inl trivial)
    | notNull => exact finds_notNull.judged .rfl h
    | notBlank => exact finds_notBlank.judged .rfl h
    | maxLength limit => exact judged_maxLength hn h
    | oneOf allowed => exact judged_oneOf hn h
    | integer => exact (finds_integer hn).judged .rfl h
    | greaterThanZero => exact judged_greaterThanZero hn h
    | amount => exact (finds_amount hn).judged .rfl h
    | positiveAmount => exact judged_positiveAmount hn h

end Rule

namespace Check

/-! ## One step -/

/-- What a rule does to a check that is not done. -/
inductive Step (resource : String) (b : Check) (r : Rule) : Check → Prop where
  | skips : r = .ignoreIfNull → b.value = .null → Step resource b r { b with skipped := true }
  | goesOn {v : Value} : r.Holds b.value ∨ r.Overlooks b.value →
      ¬ (r = .ignoreIfNull ∧ b.value = .null) → Step resource b r { b with value := v }
  | fails {suffix message : String} : ¬ r.Holds b.value →
      r.rejection b.name = some (suffix, message) →
      Step resource b r { b with error := some (errorOf resource b.name suffix message) }

variable {resource : String} {rules before after : List Rule} {r : Rule} {start b c : Check}

/-- A rule that is applied makes one of these steps. -/
theorem step_of_apply (hb : b.isDone = false) (h : apply resource b r = .ok c) :
    Step resource b r c := by
  by_cases hskip : r = .ignoreIfNull ∧ b.value = .null
  · obtain ⟨rfl, hnull⟩ := hskip
    have happly : apply resource b .ignoreIfNull = .ok { b with skipped := true } := by
      simp only [apply, hb, hnull, Bool.false_eq_true, if_false]
    cases happly.symm.trans h
    exact .skips rfl hnull
  · have happly : apply resource b r = (r.judge b.name b.value).map (b.settle resource) := by
      rw [apply, if_neg (by simp [hb])]
      exact fun hr hv => hskip ⟨hr, hv⟩
    rw [happly] at h
    cases hjudge : r.judge b.name b.value with
    | error e =>
      rw [hjudge] at h
      cases h
    | ok verdict =>
      rw [hjudge] at h
      cases h
      cases Rule.judged hjudge with
      | keeps hholds => exact .goesOn hholds hskip
      | reads hholds => exact .goesOn (.inl hholds) hskip
      | rejects hnot hrejection => exact .fails hnot hrejection

/-- A check keeps its name. -/
theorem Step.name_eq (h : Step resource b r c) : c.name = b.name := by
  cases h <;> rfl

/-- A step without an error is one of a rule that holds, or overlooks the value. -/
theorem Step.holds (h : Step resource b r c) (hc : c.error = none) :
    r.Holds b.value ∨ r.Overlooks b.value := by
  cases h with
  | skips hr _ => exact .inl (hr ▸ trivial)
  | goesOn hholds _ => exact hholds
  | fails => cases hc

/-! ## Runs -/

/-- A chain of rules comes to a rule with the parameter as the rules in front of it have left it. -/
def Meets (resource : String) (start : Check) (rules : List Rule) (r : Rule) (b : Check) : Prop :=
  ∃ before after, rules = before ++ r :: after ∧ run resource before start = .ok b

/-- Rules are applied in turn. -/
theorem run_append (before after : List Rule) (start : Check) :
    run resource (before ++ after) start =
      (run resource before start).bind (run resource after) :=
  List.foldlM_append

/-- What is left of a run after its first rules. -/
theorem run_of_append (h : run resource (before ++ after) start = .ok c)
    (hb : run resource before start = .ok b) : run resource after b = .ok c := by
  rw [run_append, hb] at h
  exact h

/-- A check that is done stays as it is to the end of the run. -/
theorem eq_of_isDone (h : run resource (before ++ after) start = .ok c)
    (hb : run resource before start = .ok b) (hdone : b.isDone = true) : c = b := by
  have hrest := run_of_append h hb
  rw [run_of_isDone hdone] at hrest
  exact (Except.ok.inj hrest).symm

/-- The first rule of a run that is not done makes a step, from which the run goes on. -/
theorem exists_step (hb : b.isDone = false) (h : run resource (r :: after) b = .ok c) :
    ∃ b', Step resource b r b' ∧ run resource after b' = .ok c := by
  rw [run_cons] at h
  obtain ⟨b', hb', hrest⟩ := bind_eq_ok.1 h
  exact ⟨b', step_of_apply hb hb', hrest⟩

/-- Without an error in the end, a rule that is reached holds or overlooks the value. -/
theorem holds_of_meets (h : run resource rules start = .ok c) (hc : c.error = none)
    (hmeets : Meets resource start rules r b) (hb : b.isDone = false) :
    r.Holds b.value ∨ r.Overlooks b.value := by
  obtain ⟨before, after, rfl, hbefore⟩ := hmeets
  obtain ⟨b', hstep, hrest⟩ := exists_step hb (run_of_append h hbefore)
  refine hstep.holds ?_
  by_contra hb'
  have hdone : b'.isDone = true := by
    rw [isDone, Option.isSome_iff_ne_none.2 hb', Bool.or_true]
  rw [run_of_isDone hdone] at hrest
  exact hb' (Except.ok.inj hrest ▸ hc)

/-- A check keeps its name through a run. -/
theorem name_of_run (h : run resource rules start = .ok c) : c.name = start.name := by
  induction rules generalizing start with
  | nil =>
    cases h
    rfl
  | cons r rules ih =>
    by_cases hdone : start.isDone = true
    · rw [run_of_isDone hdone] at h
      cases h
      rfl
    · rw [Bool.not_eq_true] at hdone
      obtain ⟨b, hstep, hrest⟩ := exists_step hdone h
      exact (ih hrest).trans hstep.name_eq

/-- The error of a run is that of a rule that is reached and does not hold, and it ends the run. -/
theorem exists_fails (hstart : start.error = none) (h : run resource rules start = .ok c)
    {e : ParameterError} (he : c.error = some e) :
    ∃ r b suffix message, Meets resource start rules r b ∧ b.isDone = false ∧
      ¬ r.Holds b.value ∧ r.rejection start.name = some (suffix, message) ∧
      c = { b with error := some (errorOf resource start.name suffix message) } := by
  induction rules using List.reverseRecOn generalizing c e with
  | nil =>
    cases h
    cases hstart.symm.trans he
  | append_singleton rules r ih =>
    obtain ⟨b, hb, hlast⟩ := bind_eq_ok.1 ((run_append rules [r] start).symm.trans h)
    cases hberror : b.error with
    | some e' =>
      have hdone : b.isDone = true := by rw [isDone, hberror, Option.isSome_some, Bool.or_true]
      obtain rfl := eq_of_isDone h hb hdone
      obtain ⟨r', b', suffix, message, ⟨before, after, rfl, hbefore⟩, hrest⟩ := ih hb hberror
      exact ⟨r', b', suffix, message, ⟨before, after ++ [r], by simp, hbefore⟩, hrest⟩
    | none =>
      by_cases hdone : b.isDone = true
      · obtain rfl := eq_of_isDone h hb hdone
        cases hberror.symm.trans he
      rw [Bool.not_eq_true] at hdone
      obtain ⟨b', hstep, hend⟩ := exists_step hdone hlast
      obtain rfl : b' = c := Except.ok.inj hend
      cases hstep with
      | skips | goesOn => cases hberror.symm.trans he
      | fails hnot hrejection =>
        rw [name_of_run hb] at hrejection
        refine ⟨r, b, _, _, ⟨rules, [], rfl, hb⟩, hdone, hnot, hrejection, ?_⟩
        rw [name_of_run hb]

/-- A null value that is accepted, or an error, ends a check. -/
theorem isDone_of_ignoreIfNull (h : run resource (before ++ .ignoreIfNull :: after) start = .ok c)
    (hb : run resource before start = .ok b) (hnull : b.value = .null) : c.isDone = true := by
  by_cases hdone : b.isDone = true
  · exact eq_of_isDone h hb hdone ▸ hdone
  · rw [Bool.not_eq_true] at hdone
    have hrest := run_of_append h hb
    rw [run_ignoreIfNull hdone, if_pos (Value.isNull_iff.2 hnull)] at hrest
    cases hrest
    rfl

/-- The errors with another parameter are those of the others and its own. -/
theorem errors_concat (earlier : List Check) (c : Check) :
    errors (earlier ++ [c]) = errors earlier ++ c.error.toList := by
  rw [errors, List.filterMap_append]
  cases hc : c.error <;> simp [errors, hc]

/-- A check adds at most one error to those of earlier parameters, that of the first rule that does
not hold of what it looks at. From an error on, and from a null value on that is accepted, the rules
change nothing. Without an error all rules that were not skipped hold of what they looked at, unless
one that asks for a number above zero looked at a double that is no number. -/
theorem reports_once {name : String} {v : Value} (earlier : List Check)
    (h : run resource rules ⟨name, v, false, none⟩ = .ok c) :
    (c.error = none ∧ errors (earlier ++ [c]) = errors earlier ∨
      ∃ r b suffix message, Meets resource ⟨name, v, false, none⟩ rules r b ∧ b.isDone = false ∧
        ¬ r.Holds b.value ∧ r.rejection name = some (suffix, message) ∧ c.value = b.value ∧
        errors (earlier ++ [c]) = errors earlier ++ [errorOf resource name suffix message]) ∧
    (∀ before after b, rules = before ++ after →
      run resource before ⟨name, v, false, none⟩ = .ok b →
      (b.error ≠ none ∨ ∃ front back b', before = front ++ .ignoreIfNull :: back ∧
        run resource front ⟨name, v, false, none⟩ = .ok b' ∧ b'.value = .null) →
      c.value = b.value ∧ errors (earlier ++ [c]) = errors (earlier ++ [b])) ∧
    (c.error = none →
      ((∀ r b, Meets resource ⟨name, v, false, none⟩ rules r b → b.isDone = false →
          r.Holds b.value) ↔
        ∀ b, Meets resource ⟨name, v, false, none⟩ rules .greaterThanZero b → b.isDone = false →
          b.value ≠ .double .nan)) := by
  refine ⟨?_, ?_, fun hc => ⟨?_, ?_⟩⟩
  · cases hc : c.error with
    | none => exact .inl ⟨rfl, by rw [errors_concat, hc, Option.toList_none, List.append_nil]⟩
    | some e =>
      obtain ⟨r, b, suffix, message, hmeets, hb, hnot, hrejection, rfl⟩ := exists_fails rfl h hc
      exact .inr ⟨r, b, suffix, message, hmeets, hb, hnot, hrejection, rfl, errors_concat ..⟩
  · rintro before after b rfl hb hend
    have hdone : b.isDone = true := by
      rcases hend with herror | ⟨front, back, b', rfl, hb', hnull⟩
      · rw [isDone, Option.isSome_iff_ne_none.2 herror, Bool.or_true]
      · exact isDone_of_ignoreIfNull hb hb' hnull
    obtain rfl := eq_of_isDone h hb hdone
    exact ⟨rfl, rfl⟩
  · intro hholds b hmeets hb hnan
    exact Rule.Overlooks.not_holds ⟨rfl, hnan⟩ (hholds _ _ hmeets hb)
  · intro hnan r b hmeets hb
    refine (holds_of_meets h hc hmeets hb).resolve_right ?_
    rintro ⟨rfl, hv⟩
    exact hnan b hmeets hb hv

/-- A limit that is read from a text but too long is reported once, by the first rule that does not
hold of it, and without an error all rules hold of what they looked at. -/
theorem reports_once_limit :
    (∃ c, run "beneficiaryrb" [.ignoreIfNull, .integer, .maxLength 1, .notBlank]
        ⟨"transferLimit", .text "12", false, none⟩ = .ok c ∧
      ∃ r b suffix message, Meets "beneficiaryrb" ⟨"transferLimit", .text "12", false, none⟩
          [.ignoreIfNull, .integer, .maxLength 1, .notBlank] r b ∧
        ¬ r.Holds b.value ∧ r.rejection "transferLimit" = some (suffix, message) ∧
        errors [c] = [errorOf "beneficiaryrb" "transferLimit" suffix message]) ∧
    ∃ c, run "beneficiaryrb" [.integer, .greaterThanZero]
        ⟨"transferLimit", .text "7", false, none⟩ = .ok c ∧ c.error = none ∧
      ∀ r b, Meets "beneficiaryrb" ⟨"transferLimit", .text "7", false, none⟩
        [.integer, .greaterThanZero] r b → b.isDone = false → r.Holds b.value := by
  have hlong : run "beneficiaryrb" [.ignoreIfNull, .integer, .maxLength 1, .notBlank]
        ⟨"transferLimit", .text "12", false, none⟩ =
      .ok ⟨"transferLimit", .int 12, false, some (errorOf "beneficiaryrb" "transferLimit"
        "exceeds.max.length" "The parameter `transferLimit` exceeds max length of 1.")⟩ := by
    rfl
  have hshort : run "beneficiaryrb" [.integer, .greaterThanZero]
        ⟨"transferLimit", .text "7", false, none⟩ =
      .ok ⟨"transferLimit", .int 7, false, none⟩ := by
    rfl
  have hread : run "beneficiaryrb" [.integer] ⟨"transferLimit", .text "7", false, none⟩ =
      .ok ⟨"transferLimit", .int 7, false, none⟩ := by
    rfl
  refine ⟨⟨_, hlong, ?_⟩, _, hshort, rfl, ?_⟩
  · rcases (reports_once [] hlong).1 with
      ⟨hnone, -⟩ | ⟨r, b, suffix, message, hmeets, -, hnot, hrejection, -, herrors⟩
    · cases hnone
    · exact ⟨r, b, suffix, message, hmeets, hnot, hrejection, herrors⟩
  · refine ((reports_once [] hshort).2.2 rfl).2 ?_
    rintro b ⟨before, after, hrules, hb⟩ - hnan
    obtain rfl : before = [.integer] := by
      rcases before with _ | ⟨r, _ | ⟨r', before⟩⟩ <;> simp_all
    cases hread.symm.trans hb
    cases hnan

/-- A double that is no number passes for one that is above zero. -/
theorem undefined_passes :
    run "beneficiaryrb" [.greaterThanZero] ⟨"transferLimit", .double .nan, false, none⟩ =
      .ok ⟨"transferLimit", .double .nan, false, none⟩ ∧
    ¬ Rule.greaterThanZero.Holds (.double .nan) :=
  ⟨rfl, Rule.Overlooks.not_holds ⟨rfl, rfl⟩⟩

end Check

end Remit
