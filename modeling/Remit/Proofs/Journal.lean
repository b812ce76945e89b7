import Remit.Store.Basic

/-!
# Outcomes of acts and changes in sequence

What an act leads to, its journal left out: `outcome_bind` runs the outcomes of two acts in
sequence. What an act asks is read off its journal: the second of two acts in sequence asks its
questions after those of the first one (`calls_bind_of_ok`), or is not reached at all
(`calls_bind_of_error`). So are its records and its requests; an act that has neither a record of
use nor a request is quiet, and so is a sequence of quiet acts (`Act.Quiet`). A change of the store
leads to an outcome and a store (`Update.result`), and in a sequence the second change starts from
the store that the first one leaves (`result_bind_of_ok`), or does not run at all
(`result_bind_of_error`). A chain of steps that ends well is taken apart at each step by
`bind_eq_ok`.
-/

namespace Remit

variable {α β : Type}

/-- A sequence ends well exactly if both of its parts do. -/
theorem bind_eq_ok {ε : Type} {x : Except ε α} {f : α → Except ε β} {b : β} :
    x >>= f = .ok b ↔ ∃ a, x = .ok a ∧ f a = .ok b := by
  cases x with
  | error e => exact ⟨nofun, fun ⟨_, h, _⟩ => by cases h⟩
  | ok a => exact ⟨fun h => ⟨a, rfl, h⟩, fun ⟨_, h, hb⟩ => by cases h; exact hb⟩

/-- A sequence fails exactly if one of its parts does. -/
theorem bind_eq_error {ε : Type} {x : Except ε α} {f : α → Except ε β} {e : ε} :
    x >>= f = .error e ↔ x = .error e ∨ ∃ a, x = .ok a ∧ f a = .error e := by
  cases x with
  | error e' =>
    constructor
    · intro h
      cases h
      exact .inl rfl
    · rintro (h | ⟨_, h, -⟩) <;> cases h
      rfl
  | ok a =>
    constructor
    · exact fun h => .inr ⟨a, rfl, h⟩
    · rintro (h | ⟨_, h, hb⟩) <;> cases h
      exact hb

/-- Giving a failure another form does not touch a result. -/
theorem mapError_eq_ok {ε ε' : Type} {x : Except ε α} {f : ε → ε'} {a : α} :
    x.mapError f = .ok a ↔ x = .ok a := by
  cases x with
  | error e => exact ⟨nofun, nofun⟩
  | ok b => exact ⟨fun h => by cases h; rfl, fun h => by cases h; rfl⟩

namespace Event

/-- The record of what a user did, if the event is one. -/
def usage? : Event → Option LogRecord
  | .log r => if r.channel = .usage then some r else none
  | _ => none

/-- Whether an event is a technical record or a question. -/
def isQuiet : Event → Bool
  | .log r => r.channel == .app
  | .call _ => true
  | .sent _ => false

end Event

namespace Act

variable (a : Act α) (f : α → Act β)

/-- A result without events is the outcome. -/
@[simp] theorem outcome_pure (x : α) : (pure x : Act α).outcome = .ok x := rfl

/-- The outcome of acts in turn is that of their outcomes in turn. -/
@[simp] theorem outcome_bind : (a >>= f).outcome = a.outcome >>= fun x => (f x).outcome := by
  obtain ⟨es, o⟩ := a
  cases o <;> rfl

/-- An act without events has the outcome that it was given. -/
@[simp] theorem outcome_lift (x : Except Fault α) : (lift x).outcome = x := rfl

/-- What breaks down without events breaks down. -/
@[simp] theorem outcome_liftBreakdown (x : Except Breakdown α) :
    (liftBreakdown x).outcome = x.mapError .breakdown := rfl

/-- Writing a record succeeds. -/
@[simp] theorem outcome_log (c : Channel) (s : Severity) (m : String) :
    (log c s m).outcome = .ok () := rfl

/-- Noting a question succeeds. -/
@[simp] theorem outcome_call (c : Call) : (call c).outcome = .ok () := rfl

/-! ## Questions -/

/-- A result asks nothing. -/
@[simp] theorem calls_pure (x : α) : (pure x : Act α).calls = [] := rfl

/-- A question comes before those of the act behind it. -/
@[simp] theorem calls_call_bind (c : Call) (g : Unit → Act β) :
    (call c >>= g).calls = c :: (g ()).calls := rfl

/-- A record asks nothing. -/
@[simp] theorem calls_log_bind (c : Channel) (s : Severity) (m : String) (g : Unit → Act β) :
    (log c s m >>= g).calls = (g ()).calls := rfl

/-- An answer that was given asks nothing. -/
@[simp] theorem calls_lift_ok_bind (x : α) : (lift (.ok x) >>= f).calls = (f x).calls := rfl

variable {a f}

/-- After an act that ends well, the next one takes its course. -/
theorem events_bind_of_ok {x : α} (h : a.outcome = .ok x) :
    (a >>= f).events = a.events ++ (f x).events := by
  obtain ⟨es, o⟩ := a
  cases h
  rfl

/-- After an act that fails, nothing happens. -/
theorem events_bind_of_error {e : Fault} (h : a.outcome = .error e) :
    (a >>= f).events = a.events := by
  obtain ⟨es, o⟩ := a
  cases h
  rfl

/-- After an act that ends well, the next one asks its questions. -/
theorem calls_bind_of_ok {x : α} (h : a.outcome = .ok x) :
    (a >>= f).calls = a.calls ++ (f x).calls := by
  rw [calls, events_bind_of_ok h, List.filterMap_append]
  rfl

/-- After an act that fails, nothing is asked. -/
theorem calls_bind_of_error {e : Fault} (h : a.outcome = .error e) :
    (a >>= f).calls = a.calls := by
  rw [calls, events_bind_of_error h]
  rfl

/-! ## Records -/

/-- After an act that ends well, the next one writes its records. -/
theorem logs_bind_of_ok {x : α} (h : a.outcome = .ok x) :
    (a >>= f).logs = a.logs ++ (f x).logs := by
  rw [logs, events_bind_of_ok h, List.filterMap_append]
  rfl

/-- After an act that fails, nothing is written. -/
theorem logs_bind_of_error {e : Fault} (h : a.outcome = .error e) :
    (a >>= f).logs = a.logs := by
  rw [logs, events_bind_of_error h]
  rfl

/-! ## Requests -/

/-- After an act that ends well, the next one sends its requests. -/
theorem sent_bind_of_ok {x : α} (h : a.outcome = .ok x) :
    (a >>= f).sent = a.sent ++ (f x).sent := by
  rw [sent, events_bind_of_ok h, List.filterMap_append]
  rfl

/-- After an act that fails, nothing is sent. -/
theorem sent_bind_of_error {e : Fault} (h : a.outcome = .error e) :
    (a >>= f).sent = a.sent := by
  rw [sent, events_bind_of_error h]
  rfl

/-- What sends nothing adds no requests to an act, however the act ends. -/
theorem sent_bind_of_silent (hf : ∀ x, (f x).sent = []) : (a >>= f).sent = a.sent := by
  cases h : a.outcome with
  | error e => exact sent_bind_of_error h
  | ok x => rw [sent_bind_of_ok h, hf x, List.append_nil]

/-! ## Records of use -/

/-- The records of what users did. -/
def usage (a : Act α) : List LogRecord := a.events.filterMap Event.usage?

/-- After an act that ends well, the records of the next one follow. -/
theorem usage_bind_of_ok {x : α} (h : a.outcome = .ok x) :
    (a >>= f).usage = a.usage ++ (f x).usage := by
  rw [usage, events_bind_of_ok h, List.filterMap_append]
  rfl

/-- After an act that fails, there are no further records. -/
theorem usage_bind_of_error {e : Fault} (h : a.outcome = .error e) :
    (a >>= f).usage = a.usage := by
  rw [usage, events_bind_of_error h]
  rfl

/-! ## Quiet acts -/

/-- An act that neither records what a user did nor sends anything. -/
def Quiet (a : Act α) : Prop := ∀ e ∈ a.events, e.isQuiet = true

theorem quiet_pure (x : α) : (pure x : Act α).Quiet := nofun

theorem quiet_lift (x : Except Fault α) : (lift x).Quiet := nofun

theorem quiet_liftBreakdown (x : Except Breakdown α) : (liftBreakdown x).Quiet := nofun

theorem quiet_refuse (r : Refusal) : (refuse r : Act α).Quiet := nofun

theorem quiet_breakDown (b : Breakdown) : (breakDown b : Act α).Quiet := nofun

/-- A question is quiet. -/
theorem quiet_call (c : Call) : (call c).Quiet := by
  rintro e he
  obtain rfl := List.mem_singleton.1 he
  rfl

/-- A technical record is quiet. -/
theorem quiet_log (s : Severity) (m : String) : (log .app s m).Quiet := by
  rintro e he
  obtain rfl := List.mem_singleton.1 he
  rfl

/-- Quiet acts in sequence are quiet. -/
theorem Quiet.bind (ha : a.Quiet) (hf : ∀ x, (f x).Quiet) : (a >>= f).Quiet := by
  cases h : a.outcome with
  | error e =>
    rw [Quiet, events_bind_of_error h]
    exact ha
  | ok x =>
    rw [Quiet, events_bind_of_ok h]
    exact fun e he => (List.mem_append.1 he).elim (ha e) (hf x e)

/-- A quiet act sends nothing … -/
theorem Quiet.sent_eq (ha : a.Quiet) : a.sent = [] := by
  refine List.filterMap_eq_nil_iff.2 fun e he => ?_
  cases e with
  | sent r => cases ha _ he
  | _ => rfl

/-- … and leaves no usage record. -/
theorem Quiet.usage_eq (ha : a.Quiet) : a.usage = [] := by
  refine List.filterMap_eq_nil_iff.2 fun e he => ?_
  cases e with
  | log r =>
    have hchannel : r.channel = .app := beq_iff_eq.1 (ha _ he)
    rw [Event.usage?, hchannel]
    rfl
  | _ => rfl

/-- The records of a sequence are those after its quiet part … -/
theorem Quiet.usage_bind_of_ok (ha : a.Quiet) {x : α} (h : a.outcome = .ok x) :
    (a >>= f).usage = (f x).usage := by
  rw [Act.usage_bind_of_ok h, ha.usage_eq, List.nil_append]

/-- … and there are none if this fails. -/
theorem Quiet.usage_bind_of_error (ha : a.Quiet) {e : Fault} (h : a.outcome = .error e) :
    (a >>= f).usage = [] := by
  rw [Act.usage_bind_of_error h, ha.usage_eq]

end Act

namespace Update

variable {u : Update α} {f : α → Update β} {s s' : Store}

/-- What a change leads to: an outcome, and the store that it leaves. -/
def result (u : Update α) (s : Store) : Except Fault α × Store := ((u s).1.outcome, (u s).2)

/-- An act that reads no store leaves it as it is. -/
@[simp] theorem result_ofAct (a : Act α) : (ofAct a).result s = (a.outcome, s) := rfl

/-- Reading leaves the store as it is. -/
@[simp] theorem result_read (g : Store → Except Breakdown α) :
    (read g).result s = ((g s).mapError .breakdown, s) := rfl

/-- After a change that ends well, the next one starts from the store that it leaves. -/
theorem result_bind_of_ok {x : α} (h : u.result s = (.ok x, s')) :
    (u >>= f).result s = (f x).result s' := by
  rcases hu : u s with ⟨⟨es, o⟩, t⟩
  rw [result, hu] at h
  cases h
  simp [result, bind, andThen, hu]

/-- After a change that fails, nothing happens. -/
theorem result_bind_of_error {e : Fault} (h : u.result s = (.error e, s')) :
    (u >>= f).result s = (.error e, s') := by
  rcases hu : u s with ⟨⟨es, o⟩, t⟩
  rw [result, hu] at h
  cases h
  simp [result, bind, andThen, hu]

/-- What only adds to the journal keeps the store, and gives the result another form. -/
theorem result_bind_of_quiet {g : α → β} (hf : ∀ x t, (f x).result t = (.ok (g x), t)) :
    (u >>= f).result s = ((u.result s).1.map g, (u.result s).2) := by
  rcases hu : u.result s with ⟨e | x, t⟩
  · exact result_bind_of_error hu
  · exact (result_bind_of_ok hu).trans (hf x t)

/-! ## Records of use -/

/-- The records of what users did that a change leaves. -/
def usage (u : Update α) (s : Store) : List LogRecord := (u s).1.usage

/-- After an update that ends well, the records of the next one follow. -/
theorem usage_bind_of_ok {x : α} (h : u.result s = (.ok x, s')) :
    (u >>= f).usage s = u.usage s ++ (f x).usage s' := by
  rcases hu : u s with ⟨⟨es, o⟩, t⟩
  rw [result, hu] at h
  cases h
  simp [usage, Act.usage, bind, andThen, hu]

/-- After an update that fails, there are no further records. -/
theorem usage_bind_of_error {e : Fault} (h : u.result s = (.error e, s')) :
    (u >>= f).usage s = u.usage s := by
  rcases hu : u s with ⟨⟨es, o⟩, t⟩
  rw [result, hu] at h
  cases h
  simp [usage, Act.usage, bind, andThen, hu]

/-- Giving the result another form leaves no record. -/
theorem usage_map (u : Update α) (g : α → β) (s : Store) :
    (u >>= fun x => pure (g x)).usage s = u.usage s := by
  rcases h : u.result s with ⟨e | x, t⟩
  · exact usage_bind_of_error h
  · exact (usage_bind_of_ok h).trans (List.append_nil _)

/-- A result that is turned into another one leaves the same store. -/
theorem result_map (u : Update α) (g : α → β) (s : Store) :
    (u >>= fun x => pure (g x)).result s = ((u.result s).1.map g, (u.result s).2) :=
  result_bind_of_quiet fun _ _ => rfl

/-- A change that neither records what a user did nor sends anything. -/
def Quiet (u : Update α) : Prop := ∀ s, (u s).1.Quiet

/-- A quiet act is a quiet update … -/
theorem quiet_ofAct {a : Act α} (h : a.Quiet) : (ofAct a).Quiet := fun _ => h

/-- … also where it is taken for one. -/
theorem quiet_liftM {a : Act α} (h : a.Quiet) : (liftM a : Update α).Quiet := fun _ => h

/-- Reading is quiet. -/
theorem quiet_read (g : Store → Except Breakdown α) : (read g).Quiet := fun _ =>
  Act.quiet_liftBreakdown _

/-- Quiet changes in sequence are quiet. -/
theorem Quiet.bind (hu : u.Quiet) (hf : ∀ x, (f x).Quiet) : (u >>= f).Quiet := by
  intro s
  have h := hu s
  rcases hs : u s with ⟨⟨es, e | x⟩, t⟩ <;> rw [hs] at h
  · simp only [Bind.bind, andThen, hs]
    exact h
  · simp only [Bind.bind, andThen, hs]
    exact fun e he => (List.mem_append.1 he).elim (h e) (hf x t e)

/-- A quiet update leaves no usage record. -/
theorem Quiet.usage_eq (hu : u.Quiet) (s : Store) : u.usage s = [] := (hu s).usage_eq

/-- The records of a sequence are those after its quiet part … -/
theorem Quiet.usage_bind_of_ok (hu : u.Quiet) {x : α} (h : u.result s = (.ok x, s')) :
    (u >>= f).usage s = (f x).usage s' := by
  rw [Update.usage_bind_of_ok h, hu.usage_eq, List.nil_append]

/-- … and there are none if this fails. -/
theorem Quiet.usage_bind_of_error (hu : u.Quiet) {e : Fault} (h : u.result s = (.error e, s')) :
    (u >>= f).usage s = [] := by
  rw [Update.usage_bind_of_error h, hu.usage_eq]

/-- A quiet change that ends well is recorded once, and one that fails is not. -/
theorem usage_noted (hu : u.Quiet) (message : α → String) (g : α → β) (s : Store) :
    (u >>= fun x => liftM (Act.log .usage .info (message x)) >>= fun _ => pure (g x)).usage s =
      match (u.result s).1 with
      | .ok x => [⟨.usage, .info, message x⟩]
      | .error _ => [] := by
  rcases h : u.result s with ⟨e | x, t⟩
  · exact hu.usage_bind_of_error h
  · exact hu.usage_bind_of_ok h

end Update

end Remit
