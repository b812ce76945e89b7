import Remit.Proofs.Operation

/-!
# Requests that run at the same time

A request that changes the registry takes two turns. In its first one it looks up what it needs and
plans a write (`Change.plan`); in its second one it makes the write (`Write.run`), whatever the
store has become in between. Run alone, the two turns are the operation (`Change.run_eq`,
`Flight.advance_advance`). In `Traffic`, any number of requests share a store, and a list of numbers
says whose turn it is: the requests may interleave in any order, and nothing but a single access to
the store is undivided.

What holds at the start and is kept by every turn holds all along (`Traffic.run_induction`).
-/

namespace Remit

/-- A request that may change the registry. -/
inductive Change where
  | add (fields : Fields)
  | update (id : Int) (fields : Fields)
  | deactivate (id : Int)

namespace Change

/-- The operation that a request asks for. -/
def operation : Change → Operation
  | add fields => .add fields
  | update id fields => .update id fields
  | deactivate id => .deactivate id

/-- What a request does before it writes: it is checked, looks up what it needs, and plans its
write. An update that changes nothing plans none. -/
def plan (user : User) (s : Store) : Change → Except Fault (Option Write)
  | add fields => do
    let requested ← Request.newBeneficiary user.id fields
    let resolved ← Resolvers.default.resolve (Registry.savingsLookup s) requested
    return some (.insert resolved.draft)
  | update id fields => do
    let requested ← Request.beneficiaryUpdate fields
    let b ← ((Registry.ownedActive user id).result s).1
    let changes ← (Registry.requestedChanges b requested).mapError .breakdown
    return if changes.isEmpty then none else some (.saveChanges id changes)
  | deactivate id => do
    let _ ← ((Registry.ownedActive user id).result s).1
    return some (.deactivate id)

end Change

/-- Makes a write: what the request answers, and the store that is left. -/
def Write.run (s : Store) : Write → Except Fault Answer × Store
  | insert d =>
    let (o, t) := (Store.insert d).result s
    (.added <$> o, t)
  | saveChanges id changes =>
    let (o, t) := (Store.saveChanges id changes).result s
    ((fun _ => .updated changes) <$> o, t)
  | deactivate id =>
    let (o, t) := (Store.deactivate id).result s
    ((fun _ => .deactivated id) <$> o, t)

/-- Runs a request alone: its write follows its look-up at once. -/
def Change.run (user : User) (s : Store) (c : Change) : Except Fault Answer × Store :=
  match c.plan user s with
  | .error e => (.error e, s)
  | .ok none => (.ok (.updated []), s)
  | .ok (some w) => w.run s

/-- How far a request got. -/
inductive Progress where
  | waiting
  | planned (w : Write)
  | done (o : Except Fault Answer)

/-- A request of a user on its way. -/
structure Flight where
  user : User
  change : Change
  progress : Progress := .waiting

/-- A turn of a request: how far it gets, and the store that is left. -/
def Flight.advance (f : Flight) (s : Store) : Progress × Store :=
  match f.progress with
  | .waiting =>
    match f.change.plan f.user s with
    | .error e => (.done (.error e), s)
    | .ok none => (.done (.ok (.updated [])), s)
    | .ok (some w) => (.planned w, s)
  | .planned w => (.done (w.run s).1, (w.run s).2)
  | .done o => (.done o, s)

/-- Requests that share a store. -/
structure Traffic where
  store : Store
  flights : List Flight

namespace Traffic

/-- All requests of users before their first turns. -/
def start (s : Store) (requests : List (User × Change)) : Traffic where
  store := s
  flights := requests.map fun q => { user := q.1, change := q.2 }

/-- The turn of the request of a number, if there is one. -/
def step (t : Traffic) (i : Nat) : Traffic :=
  match t.flights[i]? with
  | none => t
  | some f =>
    { store := (f.advance t.store).2
      flights := t.flights.set i { f with progress := (f.advance t.store).1 } }

/-- Turns of requests, one after the other. -/
def run (t : Traffic) (turns : List Nat) : Traffic := turns.foldl step t

end Traffic

variable {s : Store} {t : Traffic}

/-! ## One request -/

/-- A write leaves the store that it would leave anyway. -/
theorem Write.run_snd (w : Write) (s : Store) : (w.run s).2 = w.apply s := by
  cases w <;> rfl

/-- Run alone, a request is the operation that it asks for. -/
theorem Change.run_eq (user : User) (s : Store) (c : Change) :
    c.run user s = c.operation.run user s := by
  cases c with
  | add fields =>
    simp only [run, plan, operation, Operation.run, Registry.result_add]
    cases Request.newBeneficiary user.id fields with
    | error e => rfl
    | ok requested =>
      simp only [bind, Except.bind]
      cases Resolvers.default.resolve (Registry.savingsLookup s) requested with
      | error e => rfl
      | ok resolved => rfl
  | update id fields =>
    simp only [run, plan, operation, Operation.run, Registry.result_update]
    cases Request.beneficiaryUpdate fields with
    | error e => rfl
    | ok requested =>
      simp only [bind, Except.bind]
      rcases Registry.ownedActive_cases user id s with ⟨e, h⟩ | ⟨-, r, -, -, -, -, h⟩ <;> rw [h]
      · rfl
      simp only
      cases Registry.requestedChanges r.beneficiary requested with
      | error e => rfl
      | ok changes =>
        cases changes with
        | nil => rfl
        | cons f changes =>
          show Write.run s (.saveChanges id (f :: changes)) = _
          simp only [Write.run, List.isEmpty_cons, Bool.false_eq_true, if_false]
          rcases (Store.saveChanges id (f :: changes)).result s with ⟨e | _, t⟩ <;> rfl
  | deactivate id =>
    simp only [run, plan, operation, Operation.run, Registry.result_deactivate]
    rcases Registry.ownedActive_cases user id s with ⟨e, h⟩ | ⟨-, r, -, -, -, -, h⟩ <;> rw [h]
    · rfl
    · show Write.run s (.deactivate id) = _
      simp only [Write.run]
      rcases (Store.deactivate id).result s with ⟨e | _, t⟩ <;> rfl

/-- The two turns of a request, one right after the other, are the operation that it asks for. -/
theorem Flight.advance_advance (user : User) (c : Change) (s : Store) :
    ({ user := user, change := c, progress := (advance ⟨user, c, .waiting⟩ s).1 } : Flight).advance
      (advance ⟨user, c, .waiting⟩ s).2 =
        (.done (c.operation.run user s).1, (c.operation.run user s).2) := by
  rw [← Change.run_eq]
  simp only [advance, Change.run]
  rcases c.plan user s with e | _ | w <;> rfl

/-- A turn plans a write and leaves the store as it is, or makes the planned write, or ends the
request without one. -/
theorem Flight.advance_cases (f : Flight) (s : Store) :
    (∃ w, f.change.plan f.user s = .ok (some w) ∧ f.advance s = (.planned w, s)) ∨
    (∃ w, f.progress = .planned w ∧ f.advance s = (.done (w.run s).1, (w.run s).2)) ∨
    ∃ o, f.advance s = (.done o, s) := by
  unfold advance
  cases hp : f.progress with
  | waiting =>
    simp only
    rcases f.change.plan f.user s with e | _ | w
    · exact .inr (.inr ⟨_, rfl⟩)
    · exact .inr (.inr ⟨_, rfl⟩)
    · exact .inl ⟨w, rfl, rfl⟩
  | planned w => exact .inr (.inl ⟨w, rfl, rfl⟩)
  | done o => exact .inr (.inr ⟨o, rfl⟩)

/-! ## All requests -/

namespace Traffic

/-- The last turn is taken in the traffic that those before it leave. -/
theorem run_concat (turns : List Nat) (i : Nat) : t.run (turns ++ [i]) = (t.run turns).step i :=
  List.foldl_concat _ _ _ _

/-- A turn is that of a request, or of none. -/
theorem step_cases (t : Traffic) (i : Nat) :
    t.step i = t ∨ ∃ f ∈ t.flights, t.flights[i]? = some f ∧
      t.step i = {
        store := (f.advance t.store).2
        flights := t.flights.set i { f with progress := (f.advance t.store).1 } } := by
  unfold step
  cases h : t.flights[i]? with
  | none => exact .inl rfl
  | some f => exact .inr ⟨f, List.mem_of_getElem? h, rfl, rfl⟩

/-- What every turn keeps holds after all turns. -/
theorem run_induction {P : Traffic → Prop} (h : P t) (hstep : ∀ t i, P t → P (t.step i))
    (turns : List Nat) : P (t.run turns) := by
  induction turns using List.reverseRecOn with
  | nil => exact h
  | append_singleton turns i ih =>
    rw [run_concat]
    exact hstep _ i ih

end Traffic

end Remit
