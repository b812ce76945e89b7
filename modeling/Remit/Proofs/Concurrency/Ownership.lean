import Remit.Proofs.Concurrency.Traffic

/-!
# No request writes across users

The look-up of a request checks that a row belongs to the user, but the write goes by the id alone,
and other requests may have their turns in between. A planned write is still `Write.OwnedBy` the
user when it is made: rows keep their ids and their users, no row disappears, and no id is given out
twice, so other writes keep it so (`Write.OwnedBy.apply`). `Traffic.Sound` collects this for all
requests on their way, and every turn keeps it (`Traffic.Sound.step`). A write that is owned touches
one row, and that row is the user's (`Write.OwnedBy.touches`).
-/

namespace Remit

/-- A write that is the user's to make: it adds a row of the user, or its id is that of one. -/
def Write.OwnedBy (user : Int) (s : Store) : Write → Prop
  | insert d => d.userId = .int user
  | saveChanges id _ | deactivate id =>
    fitsColumn id = true ∧ ∃ r ∈ s.beneficiaries, r.id = id ∧ r.userId = user

/-- What a write of a user may do: it adds a row of the user, it writes a name and a limit into the
one row of its id, which is the user's, or it ends the use of such a row. Only a deactivation is
never refused; a refused write leaves the store as it is. -/
inductive Write.Touches (user : Int) (s : Store) : Write → Except Fault Answer × Store → Prop
  | notAdded {d e} : Touches user s (.insert d) (.error e, s)
  | added {d} {r : BeneficiaryRow} (hid : r.id = s.nextId) (hu : r.userId = user) :
      Touches user s (.insert d) (.ok (.added r.id), s.withRow r)
  | notSaved {id changes e} : Touches user s (.saveChanges id changes) (.error e, s)
  | saved {r : BeneficiaryRow} {changes name limit}
      (hr : s.beneficiaries.filter (·.id == r.id) = [r]) (hu : r.userId = user) :
      Touches user s (.saveChanges r.id changes) (.ok (.updated changes),
        s.mapRow r.id fun _ => { r with name := name, transferLimit := limit })
  | ended {r : BeneficiaryRow} (hr : s.beneficiaries.filter (·.id == r.id) = [r])
      (hu : r.userId = user) :
      Touches user s (.deactivate r.id) (.ok (.deactivated r.id),
        s.mapRow r.id fun _ => { r with isActive := false })

/-- The rows of a user, active or not, in the order of the table. -/
def Store.userRows (s : Store) (user : Int) : List BeneficiaryRow :=
  s.beneficiaries.filter (·.userId == user)

variable {s : Store} {user : User} {r : BeneficiaryRow}

/-! ## Planned writes -/

/-- The write that a request plans is the user's to make. -/
theorem Change.ownedBy_of_plan {c : Change} {w : Write} (h : c.plan user s = .ok (some w)) :
    w.OwnedBy user.id s := by
  have howned : ∀ {id b}, ((Registry.ownedActive user id).result s).1 = .ok b →
      fitsColumn id = true ∧ ∃ r ∈ s.beneficiaries, r.id = id ∧ r.userId = user.id := by
    intro id b hb
    rcases Registry.ownedActive_cases user id s with ⟨e, he⟩ | ⟨hid, r, hr, heq, ha, -, -⟩
    · rw [he] at hb
      cases hb
    · exact ⟨hid, r, hr, heq, (BeneficiaryRow.isActiveOf_iff.1 ha).2⟩
  cases c with
  | add fields =>
    obtain ⟨requested, hrequested, h⟩ := bind_eq_ok.1 h
    obtain ⟨resolved, hresolved, h⟩ := bind_eq_ok.1 h
    cases h
    exact Registry.userId_draft hrequested hresolved
  | update id fields =>
    obtain ⟨requested, -, h⟩ := bind_eq_ok.1 h
    obtain ⟨b, hb, h⟩ := bind_eq_ok.1 h
    obtain ⟨changes, -, h⟩ := bind_eq_ok.1 h
    cases hempty : changes.isEmpty <;> rw [hempty] at h <;> cases h
    exact howned hb
  | deactivate id =>
    obtain ⟨b, hb, h⟩ := bind_eq_ok.1 h
    cases h
    exact howned hb

/-- A write that is the user's to make stays so, whatever other write is made before it. -/
theorem Write.OwnedBy.apply {user : Int} {w : Write} (h : w.OwnedBy user s) (hs : s.UniqueIds)
    (other : Write) : w.OwnedBy user (other.apply s) := by
  have hkept : ∀ {id}, (∃ r ∈ s.beneficiaries, r.id = id ∧ r.userId = user) →
      ∃ r ∈ (other.apply s).beneficiaries, r.id = id ∧ r.userId = user := by
    rintro id ⟨r, hr, hid, hu⟩
    obtain ⟨r', hr', hbecomes⟩ := Store.exists_becomes_apply hs other hr
    exact ⟨r', hr', hbecomes.id_eq.trans hid, hbecomes.userId_eq.trans hu⟩
  cases w with
  | insert d => exact h
  | saveChanges id changes => exact ⟨h.1, hkept h.2⟩
  | deactivate id => exact ⟨h.1, hkept h.2⟩

/-! ## Made writes -/

/-- Where ids are keys, a row is the only one of its id. -/
theorem Store.filter_id_eq (hs : s.UniqueIds) (hr : r ∈ s.beneficiaries) :
    s.beneficiaries.filter (·.id == r.id) = [r] := by
  have honly : ∀ a ∈ s.beneficiaries.filter (·.id == r.id), a = r := by
    intro a ha
    obtain ⟨hm, hid⟩ := List.mem_filter.1 ha
    exact eq_of_id_eq hs hm hr (by simpa using hid)
  have hmem : r ∈ s.beneficiaries.filter (·.id == r.id) := List.mem_filter.2 ⟨hr, by simp⟩
  have hnodup : (s.beneficiaries.filter (·.id == r.id)).Nodup := (hs.filter _).of_map _
  revert honly hmem hnodup
  cases s.beneficiaries.filter (·.id == r.id) with
  | nil => exact fun _ hmem _ => absurd hmem List.not_mem_nil
  | cons a rows =>
    cases rows with
    | nil => exact fun honly _ _ => by rw [honly a List.mem_cons_self]
    | cons b rows =>
      intro honly _ hnodup
      have hab : a = b := (honly a (by simp)).trans (honly b (by simp)).symm
      exact absurd hab (List.ne_of_not_mem_cons (List.nodup_cons.1 hnodup).1)

/-- A write that is the user's to make touches one row, which is the user's. -/
theorem Write.OwnedBy.touches {user : Int} {w : Write} (h : w.OwnedBy user s) (hs : s.UniqueIds) :
    w.Touches user s (w.run s) := by
  cases w with
  | insert d =>
    rcases Store.insert_cases s d with ⟨e, he⟩ | ⟨_, -, -, -, ha⟩
    · rw [Write.run, he]
      exact .notAdded
    · obtain ⟨r, hrow, -, hid, hs'⟩ := Store.exists_row_of_insert ha
      obtain ⟨hnext, -, hu⟩ := Store.rowOf_eq_ok hrow
      rw [Write.run, ha, ← hid, hs']
      exact .added hnext (Cell.int_int (h ▸ hu))
  | saveChanges id changes =>
    obtain ⟨-, r, hr, rfl, rfl⟩ := h
    rcases Store.saveChanges_of_mem hs hr changes with ⟨e, he⟩ | ⟨name, limit, hsaved⟩
    · rw [Write.run, he]
      exact .notSaved
    · rw [Write.run, hsaved]
      exact .saved (Store.filter_id_eq hs hr) rfl
  | deactivate id =>
    obtain ⟨hid, r, hr, rfl, rfl⟩ := h
    rw [Write.run, Store.result_deactivate hid, Store.mapRow_of_mem hs hr]
    exact .ended (Store.filter_id_eq hs hr) rfl

/-- Changing a row leaves the rows of other users as they are. -/
theorem Store.userRows_mapRow {r' : BeneficiaryRow} {other : Int}
    (hr : s.beneficiaries.filter (·.id == r.id) = [r]) (hu : r'.userId = r.userId)
    (hother : r.userId ≠ other) :
    (s.mapRow r.id fun _ => r').userRows other = s.userRows other := by
  have honly : ∀ a ∈ s.beneficiaries, a.id = r.id → a = r := by
    intro a ha hid
    have hm : a ∈ s.beneficiaries.filter (·.id == r.id) :=
      List.mem_filter.2 ⟨ha, by simpa using hid⟩
    rw [hr] at hm
    exact List.mem_singleton.1 hm
  have hfalse : (r.userId == other) = false := beq_false_of_ne hother
  have hfilter : ∀ a ∈ s.beneficiaries,
      ((if a.id = r.id then r' else a).userId == other) = (a.userId == other) := by
    intro a ha
    split
    · next hid => rw [honly a ha hid, hu]
    · rfl
  have hmap : ∀ a ∈ s.beneficiaries.filter (·.userId == other),
      (if a.id = r.id then r' else a) = a := by
    intro a ha
    obtain ⟨hm, hof⟩ := List.mem_filter.1 ha
    split
    · next hid =>
      rw [honly a hm hid, hfalse] at hof
      cases hof
    · rfl
  calc (s.mapRow r.id fun _ => r').userRows other
      = (s.beneficiaries.filter fun a => (if a.id = r.id then r' else a).userId == other).map
          fun a => if a.id = r.id then r' else a := List.filter_map
    _ = (s.beneficiaries.filter (·.userId == other)).map
          fun a => if a.id = r.id then r' else a := by rw [List.filter_congr hfilter]
    _ = s.userRows other := (List.map_congr_left hmap).trans (List.map_id' _)

/-- What a write touches is none of the rows of other users. -/
theorem Write.Touches.userRows_eq {user other : Int} {w : Write} {o : Except Fault Answer × Store}
    (h : w.Touches user s o) (hother : user ≠ other) : o.2.userRows other = s.userRows other := by
  cases h with
  | notAdded | notSaved => rfl
  | @added d r hid hu =>
    have hfalse : (r.userId == other) = false := beq_false_of_ne (hu ▸ hother)
    simp only [Store.userRows, Store.withRow, List.filter_append, List.filter_cons, hfalse]
    simp
  | saved hr hu => exact Store.userRows_mapRow hr rfl (hu ▸ hother)
  | ended hr hu => exact Store.userRows_mapRow hr rfl (hu ▸ hother)

/-! ## All requests -/

namespace Traffic

variable {t : Traffic}

/-- Ids are keys, and every planned write is its user's to make. -/
structure Sound (t : Traffic) : Prop where
  ids : t.store.UniqueIds
  owned : ∀ f ∈ t.flights, ∀ w, f.progress = .planned w → w.OwnedBy f.user.id t.store

/-- Before their first turns, requests have planned nothing. -/
theorem sound_start (hs : s.UniqueIds) (requests : List (User × Change)) :
    (start s requests).Sound := by
  refine ⟨hs, fun f hf w hw => ?_⟩
  obtain ⟨q, -, rfl⟩ := List.mem_map.1 hf
  cases hw

/-- Traffic stays sound when one request gets further, if nobody's planned write suffers. -/
theorem Sound.set {f : Flight} {p : Progress} (i : Nat) (hs : s.UniqueIds)
    (hothers : ∀ f ∈ t.flights, ∀ w, f.progress = .planned w → w.OwnedBy f.user.id s)
    (hown : ∀ w, p = .planned w → w.OwnedBy f.user.id s) :
    Sound { store := s, flights := t.flights.set i { f with progress := p } } := by
  refine ⟨hs, fun f' hf' w hw => ?_⟩
  rcases List.mem_or_eq_of_mem_set hf' with hm | rfl
  · exact hothers f' hm w hw
  · exact hown w hw

/-- Every turn keeps traffic sound. -/
theorem Sound.step (h : t.Sound) (i : Nat) : (t.step i).Sound := by
  rcases t.step_cases i with hstep | ⟨f, -, -, hstep⟩ <;> rw [hstep]
  · exact h
  rcases f.advance_cases t.store with ⟨w, hplan, ha⟩ | ⟨w, -, ha⟩ | ⟨o, ha⟩ <;> rw [ha]
  · refine .set i h.ids h.owned fun w' hw' => ?_
    cases hw'
    exact Change.ownedBy_of_plan hplan
  · -- the writes that the others have planned stay theirs to make
    rw [Write.run_snd]
    refine .set i (h.ids.apply w)
      (fun f' hf' w' hw' => (h.owned f' hf' w' hw').apply h.ids w) fun w' hw' => ?_
    cases hw'
  · refine .set i h.ids h.owned fun w' hw' => ?_
    cases hw'

/-- Any list of turns keeps the traffic sound. -/
theorem Sound.run (h : t.Sound) (turns : List Nat) : (t.run turns).Sound :=
  run_induction h (fun _ i ht => ht.step i) turns

/-- The turn of a request leaves the rows of other users as they are. -/
theorem Sound.userRows_step (h : t.Sound) {i : Nat} {f : Flight} (hf : t.flights[i]? = some f)
    {other : Int} (hother : f.user.id ≠ other) :
    (t.step i).store.userRows other = t.store.userRows other := by
  simp only [Traffic.step, hf]
  rcases f.advance_cases t.store with ⟨w, -, ha⟩ | ⟨w, hw, ha⟩ | ⟨o, ha⟩ <;> rw [ha]
  have howned := h.owned f (List.mem_of_getElem? hf) w hw
  exact (howned.touches h.ids).userRows_eq hother

/-- A turn leaves the requests with their users. -/
theorem exists_user_step (i : Nat) {f : Flight} (hf : f ∈ (t.step i).flights) :
    ∃ f' ∈ t.flights, f'.user = f.user := by
  rcases t.step_cases i with hstep | ⟨f', hf', -, hstep⟩ <;> rw [hstep] at hf
  · exact ⟨f, hf, rfl⟩
  · rcases List.mem_or_eq_of_mem_set hf with hm | rfl
    · exact ⟨f, hm, rfl⟩
    · exact ⟨f', hf', rfl⟩

/-- The rows of a user who asks for nothing stay as they are. -/
theorem Sound.userRows_run (h : t.Sound) {other : Int} (hother : ∀ f ∈ t.flights, f.user.id ≠ other)
    (turns : List Nat) : (t.run turns).store.userRows other = t.store.userRows other := by
  have hkept : ∀ (t' : Traffic) (i : Nat), t'.Sound ∧ (∀ f ∈ t'.flights, f.user.id ≠ other) ∧
        t'.store.userRows other = t.store.userRows other →
      (t'.step i).Sound ∧ (∀ f ∈ (t'.step i).flights, f.user.id ≠ other) ∧
        (t'.step i).store.userRows other = t.store.userRows other := by
    rintro t' i ⟨hsound, husers, hrows⟩
    refine ⟨hsound.step i, fun f hf => ?_, ?_⟩
    · obtain ⟨f', hf', hu⟩ := exists_user_step i hf
      exact hu ▸ husers f' hf'
    · cases hi : t'.flights[i]? with
      | none => simpa only [Traffic.step, hi] using hrows
      | some f =>
        rw [hsound.userRows_step hi (husers f (List.mem_of_getElem? hi)), hrows]
  exact (run_induction ⟨h, hother, rfl⟩ hkept turns).2.2

end Traffic

/-- Whatever requests of whatever users interleave: a planned write, when it is made, touches one
row, which is the user's; no turn of a request changes a row of another user; and the rows of a user
who asks for nothing stay as they are. -/
theorem Traffic.writes_stay_with_user (s : Store) (hs : s.UniqueIds)
    (requests : List (User × Change)) (turns : List Nat) :
    (∀ f ∈ ((start s requests).run turns).flights, ∀ w, f.progress = .planned w →
      w.Touches f.user.id ((start s requests).run turns).store
        (w.run ((start s requests).run turns).store)) ∧
    (∀ i f, ((start s requests).run turns).flights[i]? = some f → ∀ other, f.user.id ≠ other →
      (((start s requests).run turns).step i).store.userRows other =
        ((start s requests).run turns).store.userRows other) ∧
    ∀ other, (∀ q ∈ requests, q.1.id ≠ other) →
      ((start s requests).run turns).store.userRows other = s.userRows other := by
  have hstart := sound_start hs requests
  have hsound := hstart.run turns
  refine ⟨fun f hf w hw => (hsound.owned f hf w hw).touches hsound.ids,
    fun i f hf other hother => hsound.userRows_step hf hother, fun other hother => ?_⟩
  refine hstart.userRows_run (fun f hf => ?_) turns
  obtain ⟨q, hq, rfl⟩ := List.mem_map.1 hf
  exact hother q hq

/-- An update is written after another request of its user has ended the use of the row and one of
another user has ended the use of another row. -/
theorem Traffic.late_write_stays_with_user :
    let renamed : Fields := [("name", .text "Dan")]
    let t := (start .shared [(⟨7, []⟩, .update 1 renamed), (⟨8, []⟩, .deactivate 2),
      (⟨7, []⟩, .deactivate 1)]).run [0, 2, 2, 1, 1]
    Store.shared.UniqueIds ∧
    t.flights.map (·.progress) = [.planned (.saveChanges 1 renamed), .done (.ok (.deactivated 2)),
      .done (.ok (.deactivated 1))] ∧
    Write.Touches 7 t.store (.saveChanges 1 renamed)
      (Write.run t.store (.saveChanges 1 renamed)) ∧
    (t.step 0).store.userRows 8 = t.store.userRows 8 := by
  intro renamed t
  have hs : Store.shared.UniqueIds := by decide
  have hprogress : t.flights.map (·.progress) = [.planned (.saveChanges 1 renamed),
      .done (.ok (.deactivated 2)), .done (.ok (.deactivated 1))] := by cbv
  have hfirst : t.flights[0]? = some ⟨⟨7, []⟩, .update 1 renamed,
      .planned (.saveChanges 1 renamed)⟩ := by cbv
  obtain ⟨htouches, hrows, -⟩ := Traffic.writes_stay_with_user .shared hs
    [(⟨7, []⟩, .update 1 renamed), (⟨8, []⟩, .deactivate 2), (⟨7, []⟩, .deactivate 1)]
    [0, 2, 2, 1, 1]
  exact ⟨hs, hprogress, htouches _ (List.mem_of_getElem? hfirst) _ rfl,
    hrows 0 _ hfirst 8 (by decide)⟩

end Remit
