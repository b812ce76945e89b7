import Remit.Proofs.Transfer.Submission

/-!
# What an answer of the execution subsystem comes to

A transfer should be reported as done only for an answer of success whose body is JSON, and any
other answer should be a refusal that tells its status and body (`Execution.Due`). An execution
keeps to this for every answer that is settled (`Execution.Answer.IsSettled`): a success that can be
read, the status of an error, or a failure to reach the subsystem. Other answers are read whatever
their status: a redirection with a body that is JSON is reported as done, and a body that is not
JSON ends in a breakdown (`Execution.execution_reported`, `Execution.redirection_reported`).

What is reported depends on the answer alone (`Execution.outcome_execute`), and a submission reports
it as it is, once the transfer is authorized (`Submission.outcome_create`).
-/

namespace Remit

namespace Execution

/-- Whether a status tells of success. -/
def IsSuccess (status : Int) : Prop := 200 ≤ status ∧ status ≤ 299

/-- How an execution should end for an answer: with the value of its body for a success, and with a
refusal that tells status and body otherwise. A success that cannot be read should be refused as
well. -/
inductive Due : Answer → Except Fault Value → Prop
  | executed {status : Int} {body : String} {v : Value} :
      IsSuccess status → decode body = .ok v → Due (.response status body) (.ok v)
  | unreadable {status : Int} {body : String} {b : Breakdown} (r : Refusal) :
      IsSuccess status → decode body = .error b →
      Due (.response status body) (.error (.refusal r))
  | rejected {status : Int} {body : String} : ¬ IsSuccess status →
      Due (.response status body) (.error (.refusal (.notExecuted (some status) body)))
  | unreached {message : String} :
      Due (.failure message) (.error (.refusal (.notExecuted none message)))

/-- The answers after which an execution ends as it should: successes that can be read, errors, and
failures of the exchange. -/
def Answer.IsSettled : Answer → Prop
  | .response status body =>
    (IsSuccess status ∧ ∃ v, decode body = .ok v) ∨ (400 ≤ status ∧ status ≤ 599)
  | .failure _ => True
  | .invalidAddress => False

variable {answer : Answer}

/-- How an execution ends is up to the answer. -/
theorem outcome_execute (base : String) (timeout : Double) (request : Value) (answer : Answer) :
    (execute base timeout request answer).outcome = (readAnswer answer).outcome :=
  Act.outcome_bind _ _

/-- The status of an error refuses a transfer; with any other status the body is read. -/
theorem outcome_readAnswer_response (status : Int) (body : String) :
    (readAnswer (.response status body)).outcome =
      if 400 ≤ status ∧ status ≤ 599 then .error (.refusal (.notExecuted (some status) body))
      else (decode body).mapError .breakdown := by
  simp only [readAnswer, isError, Bool.and_eq_true, decide_eq_true_eq]
  split <;> rfl

/-- A value is reported for a body that is JSON, unless the status is that of an error. -/
theorem outcome_readAnswer_eq_ok {v : Value} :
    (readAnswer answer).outcome = .ok v ↔
      ∃ status body, answer = .response status body ∧ ¬ (400 ≤ status ∧ status ≤ 599) ∧
        decode body = .ok v := by
  cases answer with
  | invalidAddress => exact ⟨nofun, nofun⟩
  | failure message => exact ⟨nofun, nofun⟩
  | response status body =>
    rw [outcome_readAnswer_response]
    constructor
    · intro h
      split at h
      · cases h
      · next hstatus => exact ⟨status, body, rfl, hstatus, mapError_eq_ok.1 h⟩
    · rintro ⟨_, _, ⟨⟩, hstatus, hbody⟩
      rw [if_neg hstatus, hbody]
      rfl

/-- A transfer is refused for the status of an error, which is told with the body, and for a failure
of the exchange. -/
theorem outcome_readAnswer_eq_refusal {r : Refusal} :
    (readAnswer answer).outcome = .error (.refusal r) ↔
      (∃ status body, answer = .response status body ∧ (400 ≤ status ∧ status ≤ 599) ∧
        r = .notExecuted (some status) body) ∨
      ∃ message, answer = .failure message ∧ r = .notExecuted none message := by
  cases answer with
  | invalidAddress => exact ⟨nofun, nofun⟩
  | failure message =>
    constructor
    · rintro ⟨⟩
      exact .inr ⟨message, rfl, rfl⟩
    · rintro (⟨_, _, ⟨⟩, -⟩ | ⟨_, ⟨⟩, rfl⟩)
      rfl
  | response status body =>
    rw [outcome_readAnswer_response]
    constructor
    · intro h
      split at h
      · next hstatus =>
        cases h
        exact .inl ⟨status, body, rfl, hstatus, rfl⟩
      · cases hbody : decode body <;> rw [hbody] at h <;> cases h
    · rintro (⟨_, _, ⟨⟩, hstatus, rfl⟩ | ⟨_, ⟨⟩, -⟩)
      rw [if_pos hstatus]

/-- An execution breaks down at a body that is not JSON, unless the status is that of an error, and
at an address that is none. -/
theorem outcome_readAnswer_eq_breakdown {b : Breakdown} :
    (readAnswer answer).outcome = .error (.breakdown b) ↔
      (∃ status body, answer = .response status body ∧ ¬ (400 ≤ status ∧ status ≤ 599) ∧
        decode body = .error b) ∨
      answer = .invalidAddress ∧ b = .malformedAddress := by
  cases answer with
  | invalidAddress =>
    constructor
    · rintro ⟨⟩
      exact .inr ⟨rfl, rfl⟩
    · rintro (⟨_, _, ⟨⟩, -⟩ | ⟨-, rfl⟩)
      rfl
  | failure message => exact ⟨nofun, nofun⟩
  | response status body =>
    rw [outcome_readAnswer_response]
    constructor
    · intro h
      split at h
      · cases h
      · next hstatus =>
        cases hbody : decode body <;> rw [hbody] at h <;> cases h
        exact .inl ⟨status, body, rfl, hstatus, hbody⟩
    · rintro (⟨_, _, ⟨⟩, hstatus, hbody⟩ | ⟨⟨⟩, -⟩)
      rw [if_neg hstatus, hbody]
      rfl

/-- An answer is dealt with as it should be exactly if it is settled. -/
theorem due_iff : Due answer (readAnswer answer).outcome ↔ answer.IsSettled := by
  cases answer with
  | invalidAddress => exact ⟨nofun, nofun⟩
  | failure message => exact ⟨fun _ => trivial, fun _ => .unreached⟩
  | response status body =>
    rw [outcome_readAnswer_response]
    split
    · next hstatus =>
      have hfailed : ¬ IsSuccess status := fun hsuccess => by
        have := hsuccess.2
        omega
      exact ⟨fun _ => .inr hstatus, fun _ => .rejected hfailed⟩
    · next hstatus =>
      -- Only a success is read as it should be, and only if it can be read.
      cases hbody : decode body with
      | ok v =>
        constructor
        · intro hdue
          cases hdue with
          | executed hsuccess _ => exact .inl ⟨hsuccess, v, hbody⟩
        · rintro (⟨hsuccess, -⟩ | herror)
          · exact .executed hsuccess hbody
          · exact absurd herror hstatus
      | error b =>
        constructor
        · nofun
        · rintro (⟨-, v, hv⟩ | herror)
          · cases hbody.symm.trans hv
          · exact absurd herror hstatus

end Execution

/-- A submission fails as its decision does, and else ends as the answer says. -/
theorem Submission.outcome_create (facts : Facts) (user : User) (type : Value) (fields : Fields)
    (day : Date) (env : Environment) (answer : Execution.Answer) :
    (create facts user type fields day env answer).outcome =
      decision facts user type fields day (Settings.current env).ceilings >>= fun _ =>
        (Execution.readAnswer answer).outcome := by
  cases h : decision facts user type fields day (Settings.current env).ceilings with
  | error e => exact (create_of_refused answer h).2
  | ok i => exact (create_of_authorized answer h).2

namespace Execution

/-- What is reported of an execution, for any request and any answer: a value for a body that is
JSON and a status of no error, a refusal for the status of an error and for a failure of the
exchange, and else a breakdown. This is as it should be exactly for the settled answers. A
submission reports the same once its transfer is authorized. -/
theorem execution_reported (base : String) (timeout : Double) (request : Value) (answer : Answer) :
    (∀ v, (execute base timeout request answer).outcome = .ok v ↔
      ∃ status body, answer = .response status body ∧ ¬ (400 ≤ status ∧ status ≤ 599) ∧
        decode body = .ok v) ∧
    (∀ r, (execute base timeout request answer).outcome = .error (.refusal r) ↔
      (∃ status body, answer = .response status body ∧ (400 ≤ status ∧ status ≤ 599) ∧
        r = .notExecuted (some status) body) ∨
      ∃ message, answer = .failure message ∧ r = .notExecuted none message) ∧
    (∀ b, (execute base timeout request answer).outcome = .error (.breakdown b) ↔
      (∃ status body, answer = .response status body ∧ ¬ (400 ≤ status ∧ status ≤ 599) ∧
        decode body = .error b) ∨
      answer = .invalidAddress ∧ b = .malformedAddress) ∧
    (Due answer (execute base timeout request answer).outcome ↔ answer.IsSettled) ∧
    ∀ facts user type fields day env,
      (Submission.create facts user type fields day env answer).outcome =
        Submission.decision facts user type fields day (Settings.current env).ceilings >>= fun _ =>
          (execute base timeout request answer).outcome := by
  rw [outcome_execute]
  refine ⟨fun _ => outcome_readAnswer_eq_ok, fun _ => outcome_readAnswer_eq_refusal,
    fun _ => outcome_readAnswer_eq_breakdown, due_iff, ?_⟩
  intro facts user type fields day env
  exact Submission.outcome_create facts user type fields day env answer

/-- A redirection is reported as done, and an empty answer of success is a breakdown. -/
theorem redirection_reported :
    ((execute "https://core.example/v1" (.ofInt 30) .null (.response 302 "true")).outcome =
        .ok (.bool true) ∧
      ¬ Due (.response 302 "true")
        (execute "https://core.example/v1" (.ofInt 30) .null (.response 302 "true")).outcome) ∧
    (execute "https://core.example/v1" (.ofInt 30) .null (.response 204 "")).outcome =
        .error (.breakdown .malformedAnswer) ∧
      ¬ Due (.response 204 "")
        (execute "https://core.example/v1" (.ofInt 30) .null (.response 204 "")).outcome := by
  have hdone : decode "true" = .ok (.bool true) := by cbv
  have hempty : decode "" = .error .malformedAnswer := by cbv
  simp only [outcome_execute]
  rw [outcome_readAnswer_response, if_neg (by decide), hdone, outcome_readAnswer_response,
    if_neg (by decide), hempty]
  refine ⟨⟨rfl, fun hdue => ?_⟩, rfl, fun hdue => ?_⟩
  · cases hdue with
    | executed hsuccess _ => exact absurd hsuccess.2 (by decide)
  · cases hdue

end Execution

end Remit
