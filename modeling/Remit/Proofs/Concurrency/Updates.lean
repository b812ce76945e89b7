import Remit.Proofs.Concurrency.Pair
import Remit.Proofs.Store.Overlay

/-!
# Updates that cross

Two updates of one row are as good as in turn, whatever the order of their turns, unless they are
crossed (`Traffic.updates_in_turn_or_crossed`). What happens one after the other is in turn anyway;
what is left is an update that has planned its write when the other one is written. Its write lays
the differing fields over the other update (`Updatable.run_stale`), and that is what the two leave
in one order or the other, unless the last one restates the one field and overrides the other
(`Updatable.overlay_in_turn`). Crossed updates can mix (`Traffic.updates_mixed`).
-/

namespace Remit

/-! ## One update -/

open Request.BeneficiaryUpdate

namespace Store

variable {s : Store} {user : User} {r ρ r' : BeneficiaryRow} {fields : Fields}
  {u first last : Request.BeneficiaryUpdate}

/-- A row that its user can update. -/
structure Updatable (s : Store) (user : User) (r : BeneficiaryRow) : Prop where
  consistent : s.Consistent
  mem : r ∈ s.beneficiaries
  active : r.isActiveOf user.id = true
  known : r.IsKnown
  fits : fitsColumn r.id = true

/-- An update of a row is not refused. -/
def Takes (s : Store) (r : BeneficiaryRow) (u : Request.BeneficiaryUpdate) : Prop :=
  (u.unlike r).Fits ∧ s.Admits (u.onto r)

/-- A row may be in a store or not for its user and name. -/
theorem Admits.congr (h : s.Admits r) (hid : r'.id = r.id) (hu : r'.userId = r.userId)
    (hname : r'.name = r.name) : s.Admits r' := by
  intro a ha hof heq
  rw [hu] at hof
  exact (h a ha hof (heq.trans hname)).trans hid.symm

/-- Whether a row may be in a store does not depend on what its row was updated to before. -/
theorem admits_mapRow (hid : r'.id = r.id) :
    (s.mapRow r.id fun _ => u.onto r).Admits r' ↔ s.Admits r' := by
  constructor
  · intro h a ha hof hname
    by_cases haid : a.id = r.id
    · exact haid.trans hid.symm
    · exact h a (mem_mapRow.2 ⟨a, ha, if_neg haid⟩) hof hname
  · intro h b hb hof hname
    obtain ⟨a, ha, rfl⟩ := mem_mapRow.1 hb
    by_cases haid : a.id = r.id
    · rw [if_pos haid]
      exact hid.symm
    · rw [if_neg haid] at hof hname ⊢
      exact h a ha hof hname

/-- The row of an id that is written last stays. -/
theorem mapRow_mapRow {id : Int} (hρ : ρ.id = id) :
    ((s.mapRow id fun _ => ρ).mapRow id fun _ => r') = s.mapRow id fun _ => r' := by
  have hrows : ∀ a : BeneficiaryRow,
      (if (if a.id = id then ρ else a).id = id then r' else if a.id = id then ρ else a) =
        if a.id = id then r' else a := by
    intro a
    by_cases ha : a.id = id
    · simp only [if_pos ha, if_pos hρ]
    · simp only [if_neg ha]
  simp only [mapRow, List.map_map, Function.comp_def, hrows]

namespace Updatable

/-- A row stays updatable when it is updated. -/
theorem onto (h : s.Updatable user r) (hadmits : s.Admits (u.onto r)) :
    (s.mapRow r.id fun _ => u.onto r).Updatable user (u.onto r) where
  consistent := h.consistent.mapRow fun a ha hid => by
    obtain rfl := eq_of_id_eq h.consistent.ids ha h.mem hid
    exact ⟨⟨rfl, fun hended => hended⟩, fun _ => hadmits⟩
  mem := mem_mapRow.2 ⟨r, h.mem, if_pos rfl⟩
  active := h.active
  known := h.known
  fits := h.fits

/-- Nothing of an update of the row but its write can fail. -/
theorem of_plan (hs : s.Consistent) (hr : r ∈ s.beneficiaries) (ha : r.isActiveOf user.id = true)
    {w : Option Write} (h : (Change.update r.id fields).plan user s = .ok w) :
    s.Updatable user r := by
  obtain ⟨u, -, h⟩ := bind_eq_ok.1 h
  obtain ⟨b, hb, -⟩ := bind_eq_ok.1 h
  rcases Registry.ownedActive_cases user r.id s with ⟨e, he⟩ | ⟨hid, a, hm, heq, -, hk, -⟩
  · rw [he] at hb
    cases hb
  · obtain rfl := eq_of_id_eq hs.ids hm hr heq
    exact ⟨hs, hr, ha, hk, hid⟩

/-- An update of the row plans to write what differs. -/
theorem plan_update (h : s.Updatable user r) (hu : Request.beneficiaryUpdate fields = .ok u) :
    (Change.update r.id fields).plan user s = .ok (if (u.unlike r).fields.isEmpty = true then none
      else some (.saveChanges r.id (u.unlike r).fields)) := by
  have hfound := Registry.result_ownedActive_of_mem h.consistent.ids h.mem h.known h.active h.fits
  simp only [Change.plan, hu, hfound]
  show (Registry.requestedChanges r.beneficiary u).mapError Fault.breakdown >>= _ = _
  rw [Registry.requestedChanges_eq h.known]
  rfl

/-- An update of the row fails if it is not taken, and writes what it supplies if it is. -/
theorem run_update_cases (h : s.Updatable user r)
    (hu : Request.beneficiaryUpdate fields = .ok u) :
    (∃ e, (Change.update r.id fields).run user s = (.error e, s)) ∧ ¬ s.Takes r u ∨
    s.Takes r u ∧ (Change.update r.id fields).run user s =
      (.ok (.updated (u.unlike r).fields), s.mapRow r.id fun _ => u.onto r) := by
  have hactive := (BeneficiaryRow.isActiveOf_iff.1 h.active).1
  simp only [Change.run, h.plan_update hu]
  cases hempty : (u.unlike r).fields.isEmpty with
  | true =>
    have hself : (s.mapRow r.id fun _ => u.onto r) = s := by
      rw [onto_of_isEmpty hempty, mapRow_self h.consistent.ids h.mem]
    have htakes : s.Takes r u := by
      refine ⟨?_, ?_⟩
      · rw [eq_of_isEmpty hempty]
        intro limit h
        cases h
      · rw [onto_of_isEmpty hempty]
        exact h.consistent.names r h.mem hactive
    rw [eq_of_isEmpty hempty, hself]
    exact .inr ⟨htakes, rfl⟩
  | false =>
    simp only [Bool.false_eq_true, if_false, Write.run]
    rcases saveChanges_fields h.consistent.ids h.mem hactive hempty with
      ⟨⟨e, hw⟩, hnot⟩ | ⟨⟨-, htakes⟩, hw⟩ <;> rw [hw]
    · rw [unlike_onto] at hnot
      exact .inl ⟨⟨e, rfl⟩, fun ht => hnot ⟨h.fits, ht⟩⟩
    · rw [unlike_onto] at htakes ⊢
      exact .inr ⟨htakes, rfl⟩

/-- An update that is taken is written. -/
theorem run_update_of_takes (h : s.Updatable user r)
    (hu : Request.beneficiaryUpdate fields = .ok u) (htakes : s.Takes r u) :
    ((Operation.update r.id fields).run user s).2 = s.mapRow r.id fun _ => u.onto r := by
  show ((Change.update r.id fields).operation.run user s).2 = _
  rw [← Change.run_eq]
  rcases h.run_update_cases hu with ⟨-, hnot⟩ | ⟨-, hrun⟩
  · exact (hnot htakes).elim
  · rw [hrun]

end Updatable

/-! ## Two updates -/

namespace Updatable

variable {firstFields lastFields : Fields}

/-- Two updates in turn, neither of which is refused. -/
theorem afterOperations_pair (h : s.Updatable user r)
    (hfirst : Request.beneficiaryUpdate firstFields = .ok first)
    (hlast : Request.beneficiaryUpdate lastFields = .ok last) (htakes : s.Takes r first)
    (hfits : (last.unlike (first.onto r)).Fits) (hadmits : s.Admits (last.onto (first.onto r))) :
    s.afterOperations [(user, .update r.id firstFields), (user, .update r.id lastFields)] =
      s.mapRow r.id fun _ => last.onto (first.onto r) := by
  have hid : (last.onto (first.onto r)).id = r.id := rfl
  have htakes' : (s.mapRow r.id fun _ => first.onto r).Takes (first.onto r) last :=
    ⟨hfits, (admits_mapRow hid).2 hadmits⟩
  have hwritten := (h.onto htakes.2).run_update_of_takes hlast htakes'
  show ((Operation.update r.id lastFields).run user
    ((Operation.update r.id firstFields).run user s).2).2 = _
  rw [h.run_update_of_takes hfirst htakes]
  exact hwritten.trans (mapRow_mapRow rfl)

/-- A write that was planned before the first update was written lays what differs over it. -/
theorem run_stale (h : s.Updatable user r) (htakes : s.Takes r first)
    (hlast : Request.beneficiaryUpdate lastFields = .ok last) {w : Write}
    (hplan : (Change.update r.id lastFields).plan user s = .ok (some w)) {a : Answer}
    (hw : (w.run (s.mapRow r.id fun _ => first.onto r)).1 = .ok a) :
    (last.unlike r).Fits ∧ s.Admits (overlay r first last) ∧
      (w.run (s.mapRow r.id fun _ => first.onto r)).2 =
        s.mapRow r.id fun _ => overlay r first last := by
  have h' := h.onto htakes.2
  have hactive := (BeneficiaryRow.isActiveOf_iff.1 h'.active).1
  rw [h.plan_update hlast] at hplan
  cases hempty : (last.unlike r).fields.isEmpty with
  | true =>
    rw [hempty] at hplan
    cases hplan
  | false =>
    rw [hempty] at hplan
    cases hplan
    rcases saveChanges_fields h'.consistent.ids h'.mem hactive hempty with
      ⟨⟨e, he⟩, -⟩ | ⟨⟨-, hfits, hadmits⟩, hwritten⟩
    · rw [Write.run] at hw
      rw [show (first.onto r).id = r.id from rfl] at he
      rw [he] at hw
      cases hw
    · have hid : (overlay r first last).id = r.id := rfl
      refine ⟨hfits, (admits_mapRow hid).1 hadmits, ?_⟩
      rw [Write.run]
      exact (congrArg Prod.snd hwritten).trans (mapRow_mapRow rfl)

/-- What is laid over the first update is what the two leave in turn, in one order or the other,
unless they are crossed. -/
theorem overlay_in_turn (h : s.Updatable user r)
    (hfirst : Request.beneficiaryUpdate firstFields = .ok first)
    (hlast : Request.beneficiaryUpdate lastFields = .ok last) (htakes : s.Takes r first)
    (hfits : (last.unlike r).Fits) (hadmits : s.Admits (overlay r first last))
    (hcrossed : ¬ Crossed r first last) :
    (s.mapRow r.id fun _ => overlay r first last) =
      s.afterOperations [(user, .update r.id firstFields), (user, .update r.id lastFields)] ∨
    (s.mapRow r.id fun _ => overlay r first last) =
      s.afterOperations [(user, .update r.id lastFields), (user, .update r.id firstFields)] := by
  by_cases heq : overlay r first last = last.onto (first.onto r)
  · rw [heq, h.afterOperations_pair hfirst hlast htakes (hfits.last_of_overlay heq)
      (heq ▸ hadmits)]
    exact .inl rfl
  · have heq' : overlay r first last = first.onto (last.onto r) := by
      by_contra hne
      exact hcrossed (crossed_iff.2 ⟨heq, hne⟩)
    -- the name that the last update writes is free, or the old one
    have hadmits' : s.Admits (last.onto r) := by
      rcases onto_name_cases r first last with hname | hname
      · have hactive := (BeneficiaryRow.isActiveOf_iff.1 h.active).1
        exact (h.consistent.names r h.mem hactive).congr rfl rfl hname
      · exact hadmits.congr rfl rfl hname
    rw [heq', h.afterOperations_pair hlast hfirst ⟨hfits, hadmits'⟩
      (htakes.1.first_of_overlay heq') (heq' ▸ hadmits)]
    exact .inr rfl

/-- Where one update follows another, the store is that of the two in turn, in one order or the
other, unless they are crossed. -/
theorem follows_cases (hs : s.Consistent) (hr : r ∈ s.beneficiaries)
    (ha : r.isActiveOf user.id = true)
    (hfirst : Request.beneficiaryUpdate firstFields = .ok first)
    (hlast : Request.beneficiaryUpdate lastFields = .ok last) {a b : Answer} {t : Store}
    (h : Follows s (user, .update r.id firstFields) (user, .update r.id lastFields)
      (.ok a) (.ok b) t) :
    t = s.afterOperations [(user, .update r.id firstFields), (user, .update r.id lastFields)] ∨
    t = s.afterOperations [(user, .update r.id lastFields), (user, .update r.id firstFields)] ∨
    Crossed r first last ∧ t = s.mapRow r.id fun _ => overlay r first last := by
  generalize ho : (Except.ok a : Except Fault Answer) = o at h
  generalize ho' : (Except.ok b : Except Fault Answer) = o' at h
  cases h with
  | inTurn =>
    rw [Change.run_eq, Change.run_eq]
    exact .inl rfl
  | @stale w hplan =>
    have hu : s.Updatable user r := of_plan hs hr ha hplan
    rcases hu.run_update_cases hfirst with ⟨⟨e, he⟩, -⟩ | ⟨htakes, hrun⟩
    · rw [he] at ho
      cases ho
    simp only [hrun] at ho' ⊢
    obtain ⟨hfits, hadmits, hw⟩ := hu.run_stale htakes hlast hplan ho'.symm
    rw [hw]
    by_cases hcrossed : Crossed r first last
    · exact .inr (.inr ⟨hcrossed, rfl⟩)
    · rcases hu.overlay_in_turn hfirst hlast htakes hfits hadmits hcrossed with h | h
      · exact .inl h
      · exact .inr (.inl h)

end Updatable

end Store

/-- Two updates of a row of the user, whose turns fall in any order and which both end well, leave
the store that they leave in turn, in one order or the other. Crossed ones may lay what differs of
the last one over the first. -/
theorem Traffic.updates_in_turn_or_crossed (s : Store) (hs : s.Consistent) (user : User)
    (r : BeneficiaryRow) (hr : r ∈ s.beneficiaries) (ha : r.isActiveOf user.id = true)
    (fields₁ fields₂ : Fields) (u₁ u₂ : Request.BeneficiaryUpdate)
    (h₁ : Request.beneficiaryUpdate fields₁ = .ok u₁)
    (h₂ : Request.beneficiaryUpdate fields₂ = .ok u₂) (turns : List Nat) (a₁ a₂ : Answer)
    (hdone : ((start s [(user, .update r.id fields₁), (user, .update r.id fields₂)]).run
      turns).flights.map (·.progress) = [.done (.ok a₁), .done (.ok a₂)]) :
    let t := ((start s [(user, .update r.id fields₁), (user, .update r.id fields₂)]).run
      turns).store
    t = s.afterOperations [(user, .update r.id fields₁), (user, .update r.id fields₂)] ∨
    t = s.afterOperations [(user, .update r.id fields₂), (user, .update r.id fields₁)] ∨
    Crossed r u₁ u₂ ∧ t = (s.mapRow r.id fun _ => overlay r u₁ u₂) ∨
    Crossed r u₂ u₁ ∧ t = s.mapRow r.id fun _ => overlay r u₂ u₁ := by
  intro t
  rcases follows_of_done hdone with h | h
  · rcases Store.Updatable.follows_cases hs hr ha h₁ h₂ h with h | h | h
    · exact .inl h
    · exact .inr (.inl h)
    · exact .inr (.inr (.inl h))
  · rcases Store.Updatable.follows_cases hs hr ha h₂ h₁ h with h | h | h
    · exact .inr (.inl h)
    · exact .inl h
    · exact .inr (.inr (.inr h))

/-- A store with one beneficiary, whose limit is 5. -/
def Store.limited : Store where
  beneficiaries := [
    { id := 1, userId := 7, name := "Ann", accountName := "Ann", institutionName := "Far",
      accountNumber := "B1", accountType := 2, transferLimit := some 5 }]

/-- The store of the example is consistent. -/
theorem Store.consistent_limited : Store.limited.Consistent where
  ids := by decide
  names r hr _ r' hr' _ _ := by
    rw [List.mem_singleton.1 hr, List.mem_singleton.1 hr']

/-- An update of the name and one of the limit, each of which looks up the row before the other
writes, leave what they leave in turn. -/
theorem Traffic.updates_apart :
    let naming : Fields := [("name", .text "Bob")]
    let limiting : Fields := [("transferLimit", .int 7)]
    let t := (start .limited [(⟨7, []⟩, .update 1 naming), (⟨7, []⟩, .update 1 limiting)]).run
      [0, 1, 1, 0]
    t.flights.map (·.progress) = [.done (.ok (.updated naming)), .done (.ok (.updated limiting))] ∧
    (t.store = Store.limited.afterOperations
        [(⟨7, []⟩, .update 1 naming), (⟨7, []⟩, .update 1 limiting)] ∨
      t.store = Store.limited.afterOperations
        [(⟨7, []⟩, .update 1 limiting), (⟨7, []⟩, .update 1 naming)]) := by
  intro naming limiting t
  have hnaming : Request.beneficiaryUpdate naming = .ok ⟨.given "Bob", .absent⟩ := by cbv
  have hlimiting : Request.beneficiaryUpdate limiting = .ok ⟨.absent, .given (some 7)⟩ := by cbv
  have hdone : t.flights.map (·.progress) =
      [.done (.ok (.updated naming)), .done (.ok (.updated limiting))] := by cbv
  refine ⟨hdone, ?_⟩
  rcases Traffic.updates_in_turn_or_crossed .limited Store.consistent_limited ⟨7, []⟩ _
    (List.mem_singleton.2 rfl) rfl naming limiting _ _ hnaming hlimiting [0, 1, 1, 0] _ _ hdone with
    h | h | ⟨⟨⟨h, -⟩, -⟩ | ⟨-, _, _, -, h, -⟩, -⟩ | ⟨⟨⟨-, _, h, -⟩, -⟩ | ⟨⟨h, -⟩, -⟩, -⟩
  · exact .inl h
  · exact .inr h
  all_goals cases h

/-- Two updates that are crossed, each of which looks up the row before the other writes: the row
gets the name of the one and the limit of the other, which it gets in neither order. -/
theorem Traffic.updates_mixed :
    let toBob : Fields := [("name", .text "Bob"), ("transferLimit", .int 5)]
    let toAnn : Fields := [("name", .text "Ann"), ("transferLimit", .int 7)]
    let t := (start .limited [(⟨7, []⟩, .update 1 toBob), (⟨7, []⟩, .update 1 toAnn)]).run
      [0, 1, 0, 1]
    let cells (s : Store) := s.beneficiaries.map fun r => (r.name, r.transferLimit)
    Store.limited.Consistent ∧
    t.flights.map (·.progress) = [.done (.ok (.updated [("name", .text "Bob")])),
      .done (.ok (.updated [("transferLimit", .int 7)]))] ∧
    cells t.store = [("Bob", some 7)] ∧
    cells (Store.limited.afterOperations
      [(⟨7, []⟩, .update 1 toBob), (⟨7, []⟩, .update 1 toAnn)]) = [("Ann", some 7)] ∧
    cells (Store.limited.afterOperations
      [(⟨7, []⟩, .update 1 toAnn), (⟨7, []⟩, .update 1 toBob)]) = [("Bob", some 5)] := by
  intro toBob toAnn t cells
  refine ⟨Store.consistent_limited, by cbv, ?_, ?_, ?_⟩
  all_goals decide +kernel

end Remit
