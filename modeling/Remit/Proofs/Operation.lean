import Remit.Proofs.Registry
import Remit.Proofs.Store.History
import Remit.Transfer.Authorization

/-!
# Operations

Everything that a user can do is an `Operation`, which ends with an `Answer` or an error and leaves
a store (`Operation.run`). An operation makes at most one write (`Operation.exists_write`), so what
several users do in turn (`Store.afterOperations`) is a run of writes (`Store.exists_after_eq`).
-/

namespace Remit

/-- What a user can do. -/
inductive Operation where
  | add (fields : Fields)
  | update (id : Int) (fields : Fields)
  | deactivate (id : Int)
  | listActive
  | retrieveAll
  | transferLimit (account : Option Int) (type : Int)
  | beneficiaryTemplate
  | template (type : TransferType)
  | authorize (type : TransferType) (fields : Fields) (day : Date) (settings : LimitSettings)

/-- What an operation answers. -/
inductive Answer where
  | added (id : Int)
  | updated (changes : Fields)
  | deactivated (id : Int)
  | beneficiaries (bs : List Beneficiary)
  | limit (limit : Option Int)
  | choices (v : Value)
  | template (t : Template)
  | instruction (i : Instruction)

/-- Runs an operation of a user: what it answers, and the store that it leaves. -/
def Operation.run (user : User) (s : Store) : Operation → Except Fault Answer × Store
  | add fields =>
    let (o, t) := (Registry.add user fields).result s
    (.added <$> o, t)
  | update id fields =>
    let (o, t) := (Registry.update user id fields).result s
    (.updated <$> o, t)
  | deactivate id =>
    let (o, t) := (Registry.deactivate user id).result s
    (.deactivated <$> o, t)
  | listActive => (.beneficiaries <$> Registry.listActive s user, s)
  | retrieveAll => (.beneficiaries <$> Registry.retrieveAll s user, s)
  | transferLimit account type =>
    (.limit <$> (Registry.transferLimit s user account type).mapError .breakdown, s)
  | beneficiaryTemplate => (.ok (.choices Registry.template), s)
  | template type => (.template <$> (Template.ofStore s user type).mapError .breakdown, s)
  | authorize type fields day settings =>
    (.instruction <$> (Remit.authorize (.ofStore s user) user type fields day settings).outcome, s)

/-- The store after operations of users, one after the other. -/
def Store.afterOperations (s : Store) (ops : List (User × Operation)) : Store :=
  ops.foldl (fun s op => (op.2.run op.1 s).2) s

/-- A store of three beneficiaries: one of user 7, one of user 8, and a former one of user 7. -/
def Store.shared : Store where
  beneficiaries := [
    { id := 1, userId := 7, name := "Ann", accountName := "Ann", institutionName := "Far",
      accountNumber := "B1", accountType := 2 },
    { id := 2, userId := 8, name := "Bob", accountName := "Bob", institutionName := "Far",
      accountNumber := "B2", accountType := 2 },
    { id := 3, userId := 7, name := "Cleo", accountName := "Cleo", institutionName := "Far",
      accountNumber := "B3", accountType := 1, isActive := false }]

variable {s : Store}

/-- An operation leaves the store as it is, or makes one write. -/
theorem Operation.exists_write (user : User) (s : Store) (op : Operation) :
    (op.run user s).2 = s ∨ ∃ w : Write, (op.run user s).2 = w.apply s := by
  cases op with
  | add fields =>
    simp only [run, Registry.result_add]
    split
    · exact .inl rfl
    split
    · exact .inl rfl
    · next resolved _ => exact .inr ⟨.insert resolved.draft, rfl⟩
  | update id fields =>
    simp only [run, Registry.result_update]
    cases Request.beneficiaryUpdate fields with
    | error e => exact .inl rfl
    | ok requested =>
      simp only
      rcases Registry.ownedActive_cases user id s with ⟨e, h⟩ | ⟨-, r, -, -, -, -, h⟩ <;> rw [h]
      · exact .inl rfl
      simp only
      cases Registry.requestedChanges r.beneficiary requested with
      | error e => exact .inl rfl
      | ok changes =>
        simp only
        split
        · exact .inl rfl
        · exact .inr ⟨.saveChanges id changes, rfl⟩
  | deactivate id =>
    simp only [run, Registry.result_deactivate]
    rcases Registry.ownedActive_cases user id s with ⟨e, h⟩ | ⟨-, r, -, -, -, -, h⟩ <;> rw [h]
    · exact .inl rfl
    · exact .inr ⟨.deactivate id, rfl⟩
  | listActive => exact .inl rfl
  | retrieveAll => exact .inl rfl
  | transferLimit account type => exact .inl rfl
  | beneficiaryTemplate => exact .inl rfl
  | template type => exact .inl rfl
  | authorize type fields day settings => exact .inl rfl

namespace Store

/-- The last operation is run in the store that those before it leave. -/
theorem afterOperations_concat (ops : List (User × Operation)) (op : User × Operation) :
    s.afterOperations (ops ++ [op]) = (op.2.run op.1 (s.afterOperations ops)).2 :=
  List.foldl_concat _ _ _ _

/-- Operations of users are a run of writes. -/
theorem exists_after_eq (s : Store) (ops : List (User × Operation)) :
    ∃ ws, s.afterOperations ops = s.after ws := by
  induction ops using List.reverseRecOn with
  | nil => exact ⟨[], rfl⟩
  | append_singleton ops op ih =>
    obtain ⟨ws, hws⟩ := ih
    rw [afterOperations_concat]
    rcases op.2.exists_write op.1 (s.afterOperations ops) with h | ⟨w, h⟩
    · exact ⟨ws, h.trans hws⟩
    · exact ⟨ws ++ [w], by rw [h, hws, after_concat]⟩

end Store

end Remit
