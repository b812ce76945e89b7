import Remit.Proofs.Store.Change

/-!
# One update written over another

An update that has read a row before another one was written writes what differs from the row that
it has read. The row then has the differing fields of the last update over the first one
(`BeneficiaryUpdate.overlay`). This is the row of the two updates in turn, unless the last one
restates the old value of a field that the first one changes (`overlay_eq_onto_iff`), and the row of
the two in the other order, unless it overrides a field of the first one
(`overlay_eq_onto_onto_iff`). It is neither exactly if the updates are crossed (`crossed_iff`).
-/

namespace Remit

/-! ## Fields -/

namespace Supplied

variable {α : Type}

/-- The last update restates the old value, which the first one changes. -/
def Restates (old : α) (first last : Supplied α) : Prop :=
  last = .given old ∧ ∃ a, first = .given a ∧ a ≠ old

/-- The last update changes the old value, to another value than the first one supplies. -/
def Overrides (old : α) (first last : Supplied α) : Prop :=
  ∃ a b, first = .given a ∧ last = .given b ∧ b ≠ old ∧ b ≠ a

variable {old : α} {first last : Supplied α}

/-- What restates the old value does not override it. -/
theorem Restates.not_overrides (h : Restates old first last) : ¬ Overrides old first last := by
  rintro ⟨a, b, -, hlast, hb, -⟩
  exact hb (Supplied.given.inj (hlast.symm.trans h.1))

variable [DecidableEq α]

/-- What differs from the old value, written later, is what the last update supplies, unless it
restates the old value. -/
theorem unlike_onto_eq_onto_iff :
    (last.unlike old).onto (first.onto old) = last.onto (first.onto old) ↔
      ¬ Restates old first last := by
  cases last with
  | absent => simp [unlike, onto, Restates]
  | given b =>
    by_cases hb : b = old
    · subst hb
      cases first <;> simp [onto, Restates]
    · rw [unlike_given_of_ne hb]
      simp [Restates, hb]

/-- What differs from the old value, written later, is what the first update leaves of the last one,
unless the last one overrides it. -/
theorem unlike_onto_eq_onto_onto_iff :
    (last.unlike old).onto (first.onto old) = first.onto (last.onto old) ↔
      ¬ Overrides old first last := by
  cases last with
  | absent => simp [unlike, onto, Overrides]
  | given b =>
    by_cases hb : b = old
    · subst hb
      cases first <;> simp [onto, Overrides]
    · rw [unlike_given_of_ne hb]
      cases first <;> simp [onto, Overrides, hb]

end Supplied

/-! ## Rows -/

namespace Request.BeneficiaryUpdate

variable {r ρ : BeneficiaryRow} {u first last : BeneficiaryUpdate}

/-- The row that is left when the last update has read it before the first one was written. -/
def overlay (r : BeneficiaryRow) (first last : BeneficiaryUpdate) : BeneficiaryRow :=
  (last.unlike r).onto (first.onto r)

/-- The last update restates the one field, which the first one changes, and overrides the other. -/
def Crossed (r : BeneficiaryRow) (first last : BeneficiaryUpdate) : Prop :=
  Supplied.Restates r.name first.name last.name ∧
    Supplied.Overrides r.transferLimit first.transferLimit last.transferLimit ∨
  Supplied.Restates r.transferLimit first.transferLimit last.transferLimit ∧
    Supplied.Overrides r.name first.name last.name

/-- Rows that differ at most in name and limit. -/
theorem withCells_inj {name name' : String} {limit limit' : Option Int} :
    { r with name := name, transferLimit := limit } =
        ({ r with name := name', transferLimit := limit' } : BeneficiaryRow) ↔
      name = name' ∧ limit = limit' := by
  simp

/-- The row is the one of the two updates in turn, unless the last one restates a field. -/
theorem overlay_eq_onto_iff : overlay r first last = last.onto (first.onto r) ↔
    ¬ Supplied.Restates r.name first.name last.name ∧
      ¬ Supplied.Restates r.transferLimit first.transferLimit last.transferLimit :=
  withCells_inj.trans
    (and_congr Supplied.unlike_onto_eq_onto_iff Supplied.unlike_onto_eq_onto_iff)

/-- The row is the one of the two updates in the other turn, unless the last one overrides a
field. -/
theorem overlay_eq_onto_onto_iff : overlay r first last = first.onto (last.onto r) ↔
    ¬ Supplied.Overrides r.name first.name last.name ∧
      ¬ Supplied.Overrides r.transferLimit first.transferLimit last.transferLimit :=
  withCells_inj.trans
    (and_congr Supplied.unlike_onto_eq_onto_onto_iff Supplied.unlike_onto_eq_onto_onto_iff)

/-- Exactly crossed updates leave a row that they leave in no order. -/
theorem crossed_iff : Crossed r first last ↔
    overlay r first last ≠ last.onto (first.onto r) ∧
      overlay r first last ≠ first.onto (last.onto r) := by
  rw [ne_eq, ne_eq, overlay_eq_onto_iff, overlay_eq_onto_onto_iff]
  constructor
  · rintro (⟨hname, hlimit⟩ | ⟨hlimit, hname⟩)
    · exact ⟨fun h => h.1 hname, fun h => h.2 hlimit⟩
    · exact ⟨fun h => h.2 hlimit, fun h => h.1 hname⟩
  · rintro ⟨hrestates, hoverrides⟩
    by_cases hname : Supplied.Restates r.name first.name last.name
    · by_contra h
      exact hoverrides ⟨hname.not_overrides, fun hlimit => h (.inl ⟨hname, hlimit⟩)⟩
    · by_contra h
      have hlimit : Supplied.Restates r.transferLimit first.transferLimit last.transferLimit := by
        by_contra hlimit
        exact hrestates ⟨hname, hlimit⟩
      exact hoverrides ⟨fun hname => h (.inr ⟨hlimit, hname⟩), hlimit.not_overrides⟩

/-- What fits as it differs from one row fits as it differs from another, unless it restates the
limit of the one. -/
theorem Fits.unlike (h : (u.unlike r).Fits)
    (hold : u.transferLimit = .given r.transferLimit → r.transferLimit = ρ.transferLimit) :
    (u.unlike ρ).Fits := by
  intro limit hlimit
  have hgiven : u.transferLimit = .given (some limit) ∧ some limit ≠ ρ.transferLimit := by
    revert hlimit
    simp only [BeneficiaryUpdate.unlike]
    cases hu : u.transferLimit with
    | absent =>
      intro h
      cases h
    | given b =>
      by_cases hb : b = ρ.transferLimit
      · rw [hb, Supplied.unlike_given_self]
        intro h
        cases h
      · rw [Supplied.unlike_given_of_ne hb]
        intro h
        cases h
        exact ⟨rfl, hb⟩
  obtain ⟨hu, hne⟩ := hgiven
  refine h limit ?_
  have hne' : some limit ≠ r.transferLimit := by
    intro heq
    exact hne (heq.trans (hold (hu.trans (by rw [heq]))))
  simp only [BeneficiaryUpdate.unlike, hu]
  exact Supplied.unlike_given_of_ne hne'

/-- Where the last update may as well have come second, it fits there. -/
theorem Fits.last_of_overlay (h : (last.unlike r).Fits)
    (heq : overlay r first last = last.onto (first.onto r)) :
    (last.unlike (first.onto r)).Fits := by
  refine h.unlike fun hlast => ?_
  have hlimit : (last.transferLimit.unlike r.transferLimit).onto
      (first.transferLimit.onto r.transferLimit) =
        last.transferLimit.onto (first.transferLimit.onto r.transferLimit) :=
    congrArg (·.transferLimit) heq
  rw [hlast, Supplied.unlike_given_self] at hlimit
  exact hlimit.symm

/-- Where the last update may as well have come first, the first one fits after it. -/
theorem Fits.first_of_overlay (h : (first.unlike r).Fits)
    (heq : overlay r first last = first.onto (last.onto r)) :
    (first.unlike (last.onto r)).Fits := by
  refine h.unlike fun hfirst => ?_
  have hlimit : (last.transferLimit.unlike r.transferLimit).onto
      (first.transferLimit.onto r.transferLimit) =
        first.transferLimit.onto (last.transferLimit.onto r.transferLimit) :=
    congrArg (·.transferLimit) heq
  rw [hfirst] at hlimit
  exact hlimit.symm.trans (Supplied.onto_unlike _ _)

/-- The name that the last update gives to a row is the old one, or that of the overlay. -/
theorem onto_name_cases (r : BeneficiaryRow) (first last : BeneficiaryUpdate) :
    (last.onto r).name = r.name ∨ (last.onto r).name = (overlay r first last).name := by
  simp only [overlay, onto, BeneficiaryUpdate.unlike]
  cases last.name with
  | absent => exact .inl rfl
  | given b =>
    by_cases hb : b = r.name
    · exact .inl hb
    · rw [Supplied.unlike_given_of_ne hb]
      exact .inr rfl

end Request.BeneficiaryUpdate

end Remit
