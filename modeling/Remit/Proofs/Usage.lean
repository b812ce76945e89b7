import Remit.Proofs.Operation
import Remit.Proofs.Transfer.Submission

/-!
# The record of use

The usage log is an exact account of what users did. A `UseCase` is anything that a user can ask of
the service, and a `Deed` is one that was run, with the store before it and how it ended. Over any
run of use cases of any users, the usage log holds one record for each deed that had an effect
(`Deed.isNoted`), in order, and nothing else; the record tells the user, and what was added,
changed, deactivated or transferred (`Deed.Records`, `Store.usage_exact`).

A record is written last, by what was quiet before (`Update.usage_noted`). The other steps of a use
case write technical records only.
-/

namespace Remit

/-! ## What was done -/

/-- What a user can ask of the service: an operation, or a decision about a transfer with the
settings of the environment, with its submission or without. -/
inductive UseCase where
  | operation (op : Operation)
  | authorize (type : Value) (fields : Fields) (day : Date) (env : Environment)
  | submit (type : Value) (fields : Fields) (day : Date) (env : Environment)
      (answer : Execution.Answer)

/-- What a use case returns. -/
inductive Reply where
  | answer (a : Answer)
  | instruction (i : Instruction)
  | executed (v : Value)

/-- An act that only looks at the store, as a change of it. -/
def Update.looking {α : Type} (f : Store → Act α) : Update α := fun s => (f s, s)

/-- An operation of a user as a change of the store, with its journal. -/
def Operation.act (user : User) : Operation → Update Answer
  | add fields => do return .added (← Registry.add user fields)
  | update id fields => do return .updated (← Registry.update user id fields)
  | deactivate id => do return .deactivated (← Registry.deactivate user id)
  | authorize type fields day settings => do
    return .instruction (← Update.looking fun s =>
      Remit.authorize (.ofStore s user) user type fields day settings)
  | op => Update.looking fun s => .lift (op.run user s).1

/-- A use case of a user as a change of the store, with its journal. -/
def UseCase.act (user : User) : UseCase → Update Reply
  | operation op => do return .answer (← op.act user)
  | authorize type fields day env => do
    return .instruction (← Update.looking fun s =>
      Submission.authorize (.ofStore s user) user type fields day env)
  | submit type fields day env answer => do
    return .executed (← Submission.submit user type fields day env answer)

/-- A use case that was run: whose, on which store, and how it ended. -/
structure Deed where
  user : User
  useCase : UseCase
  before : Store
  outcome : Except Fault Reply

/-- Whether a deed had an effect: a beneficiary was added, changed or deactivated, or a transfer was
executed. -/
def Deed.isNoted (d : Deed) : Bool :=
  match d.useCase, d.outcome with
  | .operation (.add _), .ok _ => true
  | .operation (.update _ _), .ok (.answer (.updated changes)) => !changes.isEmpty
  | .operation (.deactivate _), .ok _ => true
  | .submit .., .ok _ => true
  | _, _ => false

/-- What the record of a deed says. -/
inductive Deed.Records : Deed → LogRecord → Prop
  | added {user : User} {fields s id requested}
      (hr : Request.newBeneficiary user.id fields = .ok requested) :
      Records ⟨user, .operation (.add fields), s, .ok (.answer (.added id))⟩
        ⟨.usage, .info, s!"User {user.id} added beneficiary {id} ({requested.name})"⟩
  | updated {user : User} {id fields s changes} :
      Records ⟨user, .operation (.update id fields), s, .ok (.answer (.updated changes))⟩
        ⟨.usage, .info,
          s!"User {user.id} updated beneficiary {id}: {Registry.changedNames changes}"⟩
  | deactivated {user : User} {id s} :
      Records ⟨user, .operation (.deactivate id), s, .ok (.answer (.deactivated id))⟩
        ⟨.usage, .info, s!"User {user.id} deactivated beneficiary {id}"⟩
  | submitted {user : User} {type fields day env answer s v i}
      (hd : Submission.decision (.ofStore s user) user type fields day
        (Settings.current env).ceilings = .ok i) :
      Records ⟨user, .submit type fields day env answer, s, .ok (.executed v)⟩
        ⟨.usage, .info, s!"User {user.id} submitted transfer of {i.amount.val.scientific} " ++
          s!"from account {Authorization.shownId i.fromAccountId} " ++
          s!"to account {Authorization.shownId i.toAccountId}"⟩

namespace Store

/-- The deeds of a run of use cases of users, one after the other. -/
def history (s : Store) : List (User × UseCase) → List Deed
  | [] => []
  | (user, useCase) :: rest =>
    let (outcome, t) := (useCase.act user).result s
    ⟨user, useCase, s, outcome⟩ :: history t rest

/-- The journal of a run of use cases. -/
def journal (s : Store) : List (User × UseCase) → List Event
  | [] => []
  | (user, useCase) :: rest =>
    let (a, t) := useCase.act user s
    a.events ++ journal t rest

/-- The usage log of a run of use cases. -/
def usageLog (s : Store) (run : List (User × UseCase)) : List LogRecord :=
  (s.journal run).filterMap Event.usage?

end Store

variable {s : Store} {user : User} {id : Int} {fields : Fields}

/-- Looking at the store is quiet if what is done with it is. -/
theorem Update.quiet_looking {α : Type} {f : Store → Act α} (h : ∀ s, (f s).Quiet) :
    (Update.looking f).Quiet := h

/-- The results of operations are those of their acts. -/
theorem Operation.result_act (op : Operation) : (op.act user).result s = op.run user s := by
  cases op with
  | add fields => exact Update.result_map _ _ _
  | update id fields => exact Update.result_map _ _ _
  | deactivate id => exact Update.result_map _ _ _
  | authorize type fields day settings => exact Update.result_map _ _ _
  | _ => rfl

/-! ## The registry -/

namespace Store

/-- A violated constraint leaves no usage record, … -/
theorem quiet_refuseViolation {α : Type} (v : Violation) (name : Value) :
    (refuseViolation v name : Act α).Quiet := by
  refine Act.Quiet.bind ?_ fun _ => Act.quiet_refuse _
  simp only [integrityRefusal]
  split
  · exact Act.quiet_pure _
  · exact (Act.quiet_log _ _).bind fun _ => Act.quiet_pure _

/-- … and neither does writing a row, … -/
theorem quiet_insert (d : Draft) : (insert d).Quiet := by
  intro s
  simp only [insert]
  split
  · exact Act.quiet_breakDown _
  split
  · exact quiet_refuseViolation _ _
  · exact (Act.quiet_log _ _).bind fun _ => Act.quiet_pure _

/-- … saving changes, … -/
theorem quiet_saveChanges (id : Int) (changes : Fields) : (saveChanges id changes).Quiet := by
  intro s
  simp only [saveChanges]
  split
  · exact Act.quiet_breakDown _
  split
  · exact Act.quiet_pure _
  split
  · exact Act.quiet_breakDown _
  split
  · exact Act.quiet_pure _
  split
  · exact quiet_refuseViolation _ _
  · exact Act.quiet_pure _

/-- … deactivating a row … -/
theorem quiet_deactivate (id : Int) : (deactivate id).Quiet := by
  intro s
  simp only [deactivate]
  split
  · exact Act.quiet_breakDown _
  · exact Act.quiet_pure _

end Store

namespace Registry

/-- … or looking for an active row of the user. -/
theorem quiet_ownedActive (user : User) (id : Int) : (ownedActive user id).Quiet := by
  refine (Update.quiet_read _).bind fun found => ?_
  split
  · split
    · exact fun _ => Act.quiet_pure _
    · exact Update.quiet_liftM (Act.quiet_refuse _)
  · exact Update.quiet_liftM (Act.quiet_refuse _)

/-- What is added is recorded. -/
theorem usage_add : (add user fields).usage s =
    match Request.newBeneficiary user.id fields, ((add user fields).result s).1 with
    | .ok requested, .ok id =>
      [⟨.usage, .info, s!"User {user.id} added beneficiary {id} ({requested.name})"⟩]
    | _, _ => [] := by
  rw [result_add]
  unfold add
  cases hr : Request.newBeneficiary user.id fields with
  | error e => exact Update.usage_bind_of_error rfl
  | ok requested =>
    have hread : (Update.ofAct (.lift (.ok requested))).result s = (.ok requested, s) := rfl
    refine ((Update.quiet_ofAct (Act.quiet_lift _)).usage_bind_of_ok hread).trans ?_
    have hresolve : Update.result
        (fun s => (Act.lift (Resolvers.default.resolve (savingsLookup s) requested), s)) s =
          (Resolvers.default.resolve (savingsLookup s) requested, s) := rfl
    simp only
    cases hresolved : Resolvers.default.resolve (savingsLookup s) requested with
    | error e =>
      rw [hresolved] at hresolve
      exact Update.usage_bind_of_error hresolve
    | ok resolved =>
      rw [hresolved] at hresolve
      obtain ⟨-, -, _, _, _, _, -, rfl⟩ := Resolvers.resolve_eq_ok hresolved
      refine (Update.usage_bind_of_ok hresolve).trans ?_
      refine (Update.usage_noted (Store.quiet_insert _) _ _ s).trans ?_
      cases ((Store.insert _).result s).1 <;> rfl

/-- A change of something is recorded. -/
theorem usage_update : (update user id fields).usage s =
    match ((update user id fields).result s).1 with
    | .ok changes =>
      if changes.isEmpty then []
      else [⟨.usage, .info, s!"User {user.id} updated beneficiary {id}: {changedNames changes}"⟩]
    | .error _ => [] := by
  rw [result_update]
  unfold update
  cases hr : Request.beneficiaryUpdate fields with
  | error e => exact Update.usage_bind_of_error rfl
  | ok requested =>
    have hread : (Update.ofAct (.lift (.ok requested))).result s = (.ok requested, s) := rfl
    rw [(Update.quiet_ofAct (Act.quiet_lift _)).usage_bind_of_ok hread]
    simp only
    rcases ho : (ownedActive user id).result s with ⟨e | b, t⟩
    · exact (quiet_ownedActive user id).usage_bind_of_error ho
    rw [(quiet_ownedActive user id).usage_bind_of_ok ho]
    have hchanges : (Update.ofAct (.liftBreakdown (requestedChanges b requested))).result t =
        ((requestedChanges b requested).mapError .breakdown, t) := rfl
    simp only
    cases hc : requestedChanges b requested with
    | error e =>
      rw [hc] at hchanges
      exact Update.usage_bind_of_error hchanges
    | ok changes =>
      rw [hc] at hchanges
      rw [(Update.quiet_ofAct (Act.quiet_liftBreakdown _)).usage_bind_of_ok hchanges]
      simp only
      cases hempty : List.isEmpty changes with
      | true =>
        simp only [if_true, hempty]
        rfl
      | false =>
        refine (Update.usage_noted (Store.quiet_saveChanges id changes) _ _ t).trans ?_
        cases ((Store.saveChanges id changes).result t).1 <;> simp [Except.map, hempty]

/-- A deactivation is recorded. -/
theorem usage_deactivate : (deactivate user id).usage s =
    match ((deactivate user id).result s).1 with
    | .ok _ => [⟨.usage, .info, s!"User {user.id} deactivated beneficiary {id}"⟩]
    | .error _ => [] := by
  rw [result_deactivate]
  unfold deactivate
  rcases ho : (ownedActive user id).result s with ⟨e | b, t⟩
  · exact (quiet_ownedActive user id).usage_bind_of_error ho
  · rw [(quiet_ownedActive user id).usage_bind_of_ok ho]
    refine (Update.usage_noted (Store.quiet_deactivate id) _ _ t).trans ?_
    simp only
    cases ((Store.deactivate id).result t).1 <;> rfl

end Registry

/-! ## Transfers -/

namespace Submission

variable {type : Value} {day : Date} {env : Environment}

/-- Deciding leaves no record of use. -/
theorem quiet_authorize (facts : Facts) (user : User) (type : Value) (fields : Fields) (day : Date)
    (env : Environment) : (authorize facts user type fields day env).Quiet :=
  (Settings.quiet_read env).bind fun _ => quiet_authorizeNow

/-- An execution leaves no record of use. -/
theorem usage_execute (base : String) (timeout : Double) (body : Value)
    (answer : Execution.Answer) : (Execution.execute base timeout body answer).usage = [] := by
  have hrecord : (Act.record (.sent ⟨Address.below base Execution.path, timeout, body⟩)).outcome =
      .ok () := rfl
  rw [Execution.execute, Act.usage_bind_of_ok hrecord, (quiet_readAnswer answer).usage_eq,
    List.append_nil]
  rfl

/-- What is executed is recorded. -/
theorem usage_create (facts : Facts) (answer : Execution.Answer) :
    (create facts user type fields day env answer).usage =
      match decision facts user type fields day (Settings.current env).ceilings,
        (create facts user type fields day env answer).outcome with
      | .ok i, .ok _ =>
        [⟨.usage, .info, s!"User {user.id} submitted transfer of {i.amount.val.scientific} " ++
          s!"from account {Authorization.shownId i.fromAccountId} " ++
          s!"to account {Authorization.shownId i.toAccountId}"⟩]
      | _, _ => [] := by
  have hread := Settings.outcome_read env
  cases hd : decision facts user type fields day (Settings.current env).ceilings with
  | error e =>
    have hdecided := outcome_authorizeNow.trans hd
    rw [create, (Settings.quiet_read env).usage_bind_of_ok hread,
      quiet_authorizeNow.usage_bind_of_error hdecided]
  | ok i =>
    have hdecided := outcome_authorizeNow.trans hd
    obtain ⟨-, houtcome⟩ := create_of_authorized answer hd
    have hexecute : (Execution.execute (Settings.current env).executionUrl
        (Settings.current env).executionTimeout i.payload.toValue answer).outcome =
          (Execution.readAnswer answer).outcome := Act.outcome_bind _ _
    rw [create, (Settings.quiet_read env).usage_bind_of_ok hread,
      quiet_authorizeNow.usage_bind_of_ok hdecided]
    rw [create] at houtcome
    rw [houtcome]
    cases hanswer : (Execution.readAnswer answer).outcome with
    | error e =>
      rw [Act.usage_bind_of_error (hexecute.trans hanswer), usage_execute]
    | ok v =>
      rw [Act.usage_bind_of_ok (hexecute.trans hanswer), usage_execute]
      rfl

end Submission

/-! ## Runs -/

/-- The deed of a use case that a user runs on a store. -/
def Deed.of (user : User) (s : Store) (useCase : UseCase) : Deed :=
  ⟨user, useCase, s, ((useCase.act user).result s).1⟩

/-- What is done by an operation is the same but for the form of the reply. -/
theorem Deed.of_operation {α : Type} {op : Operation} {u : Update α} {g : α → Answer}
    (h : op.act user = u >>= fun x => pure (g x)) :
    Deed.of user s (.operation op) =
      ⟨user, .operation op, s, (u.result s).1.map fun x => .answer (g x)⟩ := by
  rw [Deed.of, UseCase.act, h, Update.result_map, Update.result_map]
  cases (u.result s).1 <;> rfl

/-- An operation is recorded if it had an effect, once, and as what it was. -/
theorem Operation.usage_act (op : Operation) :
    List.Forall₂ Deed.Records ([Deed.of user s (.operation op)].filter Deed.isNoted)
      ((op.act user).usage s) := by
  cases op with
  | add fields =>
    rw [Deed.of_operation rfl, Operation.act, Update.usage_map, Registry.usage_add]
    rcases Registry.add_cases user fields s with ⟨e, h⟩ | ⟨requested, _, r, hr, -, -, -, h⟩ <;>
      rw [h]
    · cases Request.newBeneficiary user.id fields <;> exact .nil
    · rw [hr]
      exact .cons (.added hr) .nil
  | update id fields =>
    rw [Deed.of_operation rfl, Operation.act, Update.usage_map, Registry.usage_update]
    cases ((Registry.update user id fields).result s).1 with
    | error e => exact .nil
    | ok changes =>
      simp only [Except.map]
      by_cases hempty : List.isEmpty changes = true
      · rw [if_pos hempty, List.filter_cons_of_neg (by simp [Deed.isNoted, hempty])]
        exact .nil
      · rw [if_neg hempty, List.filter_cons_of_pos (by simp [Deed.isNoted, hempty])]
        exact .cons .updated .nil
  | deactivate id =>
    rw [Deed.of_operation rfl, Operation.act, Update.usage_map, Registry.usage_deactivate]
    rcases Registry.deactivate_cases user id s with ⟨e, h⟩ | ⟨r, -, -, -, h⟩ <;> rw [h]
    · exact .nil
    · exact .cons .deactivated .nil
  | authorize type fields day settings =>
    have hquiet := Update.quiet_looking fun s =>
      Authorization.quiet_authorize (.ofStore s user) user type fields day settings
    rw [Operation.act, Update.usage_map, hquiet.usage_eq]
    exact .nil
  | _ => exact .nil

/-- A use case is recorded if it had an effect, once, and as what it was. -/
theorem UseCase.usage_act (useCase : UseCase) :
    List.Forall₂ Deed.Records ([Deed.of user s useCase].filter Deed.isNoted)
      ((useCase.act user).usage s) := by
  cases useCase with
  | operation op =>
    rw [UseCase.act, Update.usage_map]
    exact op.usage_act
  | authorize type fields day env =>
    have hquiet := Update.quiet_looking fun s =>
      Submission.quiet_authorize (.ofStore s user) user type fields day env
    rw [UseCase.act, Update.usage_map, hquiet.usage_eq]
    exact .nil
  | submit type fields day env answer =>
    have hdeed : Deed.of user s (.submit type fields day env answer) =
        ⟨user, .submit type fields day env answer, s, (Submission.create (.ofStore s user) user type
          fields day env answer).outcome.map .executed⟩ := by
      rw [Deed.of, UseCase.act, Update.result_map]
      rfl
    have hlog : (Submission.submit user type fields day env answer).usage s = _ :=
      Submission.usage_create (.ofStore s user) answer
    rw [hdeed, UseCase.act, Update.usage_map, hlog]
    cases hd : Submission.decision (.ofStore s user) user type fields day
        (Settings.current env).ceilings with
    | error e =>
      rw [(Submission.create_of_refused answer hd).2]
      exact .nil
    | ok i =>
      cases (Submission.create (.ofStore s user) user type fields day env answer).outcome with
      | error e => exact .nil
      | ok v => exact .cons (.submitted hd) .nil

/-- Over any run of use cases of any users, the usage log holds one record for each deed that had an
effect, in order, and no other. -/
theorem Store.usage_exact (s : Store) (run : List (User × UseCase)) :
    List.Forall₂ Deed.Records ((s.history run).filter Deed.isNoted) (s.usageLog run) := by
  induction run generalizing s with
  | nil => exact .nil
  | cons step run ih =>
    obtain ⟨user, useCase⟩ := step
    have hlog : s.usageLog ((user, useCase) :: run) =
        (useCase.act user).usage s ++ Store.usageLog ((useCase.act user).result s).2 run :=
      List.filterMap_append
    have hhistory : s.history ((user, useCase) :: run) =
        [Deed.of user s useCase] ++ Store.history ((useCase.act user).result s).2 run := rfl
    rw [hlog, hhistory, List.filter_append]
    exact List.rel_append useCase.usage_act (ih _)

end Remit
