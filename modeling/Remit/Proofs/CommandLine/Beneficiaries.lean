import Remit.Proofs.Columns
import Remit.Proofs.CommandLine.Lines
import Remit.Proofs.Json.Writing
import Remit.Proofs.Store.Ledger

/-!
# The command line and the registry

A command line has the effect of one operation of the registry, and ends as that does
(`CommandLine.Beneficiaries.run_spec`). The parameters of the operation are the options that are
given, each under its name (`BeneficiaryCommand.mem_params`). What the operation answers is printed
in one line (`BeneficiaryCommand.Prints`), which can be written because the numbers of the store fit
their columns and those of a change were put into them before. What it refuses goes to the error
stream (`Beneficiaries.Ends`), and breakdowns are passed on.
-/

namespace Remit

/-! ## What is printed can be written -/

namespace Value

/-- A number of the width of a column can be written. -/
theorem writable_int {i : Int} (h : fitsColumn i = true) : (int i).Writable :=
  all_of_isScalar trivial (if_pos (Bank.isShort_of_fits h))

theorem writable_text (s : String) : (text s).Writable := all_of_isScalar trivial rfl

/-- A number that a row may lack can be written if it fits its column. -/
theorem writable_ofInt? {o : Option Int} (h : FitsNumber o) : (ofInt? o).Writable := by
  cases o with
  | none => exact all_of_isScalar trivial rfl
  | some i => exact writable_int (h i rfl)

/-- A text that a row may lack can be written. -/
theorem writable_ofText? (o : Option String) : (ofText? o).Writable := by
  cases o with
  | none => exact all_of_isScalar trivial rfl
  | some s => exact writable_text s

/-- What can be written has a text. -/
theorem Writable.exists_jsonText {v : Value} (h : v.Writable) : ∃ text, v.jsonText = .ok text := by
  obtain ⟨text, htext⟩ := h.exists_json
  exact ⟨text, by rw [jsonText_eq, htext]; rfl⟩

end Value

/-- The numbers of a row fit into their columns. -/
structure BeneficiaryRow.NumbersFit (r : BeneficiaryRow) : Prop where
  id : fitsColumn r.id = true
  userId : fitsColumn r.userId = true
  accountId : FitsNumber r.accountId
  clientId : FitsNumber r.clientId
  officeId : FitsNumber r.officeId
  transferLimit : FitsNumber r.transferLimit

/-- The beneficiary of a row with numbers that fit can be written. -/
theorem BeneficiaryRow.NumbersFit.writable {r : BeneficiaryRow} {b : Beneficiary}
    (h : r.NumbersFit) (hb : r.toBeneficiary = .ok b) : b.toValue.Writable := by
  unfold toBeneficiary at hb
  split at hb
  · cases hb
  · cases hb
    refine Value.all_record.2 ⟨rfl, fun k v hv => ?_⟩
    simp only [List.mem_cons, Prod.mk.injEq, List.not_mem_nil, or_false] at hv
    rcases hv with ⟨-, rfl⟩ | ⟨-, rfl⟩ | ⟨-, rfl⟩ | ⟨-, rfl⟩ | ⟨-, rfl⟩ | ⟨-, rfl⟩ | ⟨-, rfl⟩ |
      ⟨-, rfl⟩ | ⟨-, rfl⟩ | ⟨-, rfl⟩ | ⟨-, rfl⟩ | ⟨-, rfl⟩ | ⟨-, rfl⟩ | ⟨-, rfl⟩
    · exact Value.writable_int h.id
    · exact Value.writable_int h.userId
    · exact Value.writable_text _
    · exact Value.writable_text _
    · exact Value.writable_text _
    · exact Value.all_of_isScalar trivial rfl
    · exact Value.writable_text _
    · exact Value.writable_ofInt? h.accountId
    · exact Value.writable_ofInt? h.clientId
    · exact Value.writable_ofInt? h.officeId
    · exact Value.writable_ofText? _
    · exact Value.writable_ofText? _
    · exact Value.writable_ofInt? h.transferLimit
    · exact Value.all_of_isScalar trivial rfl

/-- The fields of a change with a limit that fits can be written. -/
theorem Request.BeneficiaryUpdate.Fits.writable {u : BeneficiaryUpdate} (h : u.Fits) :
    (Value.object u.fields).Writable := by
  refine Value.all_object.2 ⟨rfl, fun k v hv => ?_⟩
  obtain ⟨name, limit⟩ := u
  rcases List.mem_append.1 hv with hv | hv
  · cases name with
    | absent => cases hv
    | given s =>
      cases List.mem_singleton.1 hv
      exact Value.writable_text s
  · cases limit with
    | absent => cases hv
    | given l =>
      cases List.mem_singleton.1 hv
      exact Value.writable_ofInt? fun i hi => h i (congrArg Supplied.given hi)

namespace Registry

variable {s t : Store} {user : User} {id : Int} {fields : Fields}

/-- A change that is made is one of fields that fit. -/
theorem exists_fields_of_update {changes : Fields}
    (h : (update user id fields).result s = (.ok changes, t)) :
    ∃ u : Request.BeneficiaryUpdate, u.Fits ∧ changes = u.fields := by
  rw [result_update] at h
  cases hrequested : Request.beneficiaryUpdate fields with
  | error e =>
    rw [hrequested] at h
    cases h
  | ok requested =>
    simp only [hrequested] at h
    rcases ownedActive_cases user id s with ⟨e, ho⟩ | ⟨-, r, -, -, -, hk, ho⟩ <;>
      simp only [ho] at h
    · cases h
    simp only [requestedChanges_eq hk] at h
    cases hempty : (requested.unlike r).fields.isEmpty with
    | true =>
      rw [if_pos hempty] at h
      cases h
      refine ⟨_, fun limit hlimit => ?_, rfl⟩
      rw [Request.BeneficiaryUpdate.eq_of_isEmpty hempty] at hlimit
      cases hlimit
    | false =>
      rw [if_neg (Bool.eq_false_iff.1 hempty)] at h
      -- A limit that does not fit would have stopped the write.
      by_cases hfits : (requested.unlike r).Fits
      · generalize (Store.saveChanges id (requested.unlike r).fields).result s = saved at h
        obtain ⟨_ | _, _⟩ := saved <;> cases h
        exact ⟨_, hfits, rfl⟩
      · rw [Store.result_saveChanges, Request.BeneficiaryUpdate.ofFields_of_not_fits hfits] at h
        cases h

end Registry

/-- The rejected fields of a refusal. -/
def Refusal.rejected : Refusal → List ParameterError
  | .invalidRequest errors => errors
  | _ => []

namespace CommandLine

/-! ## Parameters -/

/-- The parameters of the request that a command makes. -/
def BeneficiaryCommand.params : BeneficiaryCommand → Fields
  | .add options => options.fields
  | .update _ options => options.fields
  | _ => []

/-- What a command supplies: each option that is given as the parameter of its name, with its text
or its number, and no limit for `--clear-limit`, whatever limit is given with it. -/
inductive BeneficiaryCommand.Supplies : BeneficiaryCommand → String → Value → Prop where
  | name {o : AddOptions} {s : String} : o.name = some s → Supplies (.add o) "name" (.text s)
  | accountName {o : AddOptions} {s : String} : o.accountName = some s →
      Supplies (.add o) "accountName" (.text s)
  | accountNumber {o : AddOptions} {s : String} : o.accountNumber = some s →
      Supplies (.add o) "accountNumber" (.text s)
  | accountType {o : AddOptions} {i : Int} : o.accountType = some i →
      Supplies (.add o) "accountType" (.int i)
  | institutionName {o : AddOptions} {s : String} : o.institutionName = some s →
      Supplies (.add o) "institutionName" (.text s)
  | institutionCode {o : AddOptions} {s : String} : o.institutionCode = some s →
      Supplies (.add o) "institutionCode" (.text s)
  | currencyCode {o : AddOptions} {s : String} : o.currencyCode = some s →
      Supplies (.add o) "currencyCode" (.text s)
  | transferLimit {o : AddOptions} {s : String} : o.transferLimit = some s →
      Supplies (.add o) "transferLimit" (.text s)
  | newName {id : Int} {o : UpdateOptions} {s : String} : o.name = some s →
      Supplies (.update id o) "name" (.text s)
  | newLimit {id : Int} {o : UpdateOptions} {s : String} : o.clearLimit = false →
      o.transferLimit = some s → Supplies (.update id o) "transferLimit" (.text s)
  | noLimit {id : Int} {o : UpdateOptions} : o.clearLimit = true →
      Supplies (.update id o) "transferLimit" .null

/-- An option that is given is the parameter of its name, and one that is not is none. -/
theorem mem_given {α : Type} {name k : String} {f : α → Value} {v : Value} {o : Option α} :
    (k, v) ∈ given name f o ↔ ∃ a, o = some a ∧ k = name ∧ v = f a := by
  cases o <;> simp [given]

/-- An option gives at most one parameter, of its name. -/
theorem given_sublist {α : Type} (name : String) (f : α → Value) (o : Option α) :
    ((given name f o).map (·.1)).Sublist [name] := by
  cases o with
  | none => exact List.nil_sublist _
  | some a => exact List.Sublist.refl _

namespace BeneficiaryCommand

variable {c : BeneficiaryCommand} {k : String} {v : Value}

/-- The parameters of a command are what it supplies. -/
theorem mem_params : (k, v) ∈ c.params ↔ c.Supplies k v := by
  constructor
  · intro h
    cases c with
    | list | template | delete => cases h
    | add o =>
      simp only [params, AddOptions.fields, List.mem_append, mem_given] at h
      rcases h with ((((((⟨s, hs, rfl, rfl⟩ | ⟨s, hs, rfl, rfl⟩) | ⟨s, hs, rfl, rfl⟩) |
        ⟨i, hi, rfl, rfl⟩) | ⟨s, hs, rfl, rfl⟩) | ⟨s, hs, rfl, rfl⟩) | ⟨s, hs, rfl, rfl⟩) |
        ⟨s, hs, rfl, rfl⟩
      · exact .name hs
      · exact .accountName hs
      · exact .accountNumber hs
      · exact .accountType hi
      · exact .institutionName hs
      · exact .institutionCode hs
      · exact .currencyCode hs
      · exact .transferLimit hs
    | update id o =>
      rcases List.mem_append.1 h with h | h
      · obtain ⟨s, hs, rfl, rfl⟩ := mem_given.1 h
        exact .newName hs
      · split at h
        · next hclear =>
          cases List.mem_singleton.1 h
          exact .noLimit hclear
        · next hclear =>
          obtain ⟨s, hs, rfl, rfl⟩ := mem_given.1 h
          exact .newLimit (Bool.eq_false_iff.2 hclear) hs
  · intro h
    cases h <;> simp_all [params, AddOptions.fields, UpdateOptions.fields, given]

/-- Each parameter is supplied once. -/
theorem nodup_params (c : BeneficiaryCommand) : (c.params.map (·.1)).Nodup := by
  cases c with
  | list | template | delete => exact List.nodup_nil
  | add o =>
    have hnames : ["name", "accountName", "accountNumber", "accountType", "institutionName",
      "institutionCode", "currencyCode", "transferLimit"].Nodup := by decide
    refine hnames.sublist ?_
    simp only [params, AddOptions.fields, List.map_append]
    exact ((((((((given_sublist ..).append (given_sublist ..)).append (given_sublist ..)).append
      (given_sublist ..)).append (given_sublist ..)).append (given_sublist ..)).append
      (given_sublist ..)).append (given_sublist ..))
  | update id o =>
    have hnames : ["name", "transferLimit"].Nodup := by decide
    refine hnames.sublist ?_
    simp only [params, UpdateOptions.fields, List.map_append]
    refine (given_sublist ..).append ?_
    split
    · exact List.Sublist.refl _
    · exact given_sublist ..

/-! ## What a command prints -/

/-- The operation of the registry that a command stands for. -/
def operation : BeneficiaryCommand → Operation
  | .list => .retrieveAll
  | .template => .beneficiaryTemplate
  | .add options => .add (params (.add options))
  | .update id options => .update id (params (.update id options))
  | .delete id => .deactivate id

/-- The line that a command prints for an answer. -/
inductive Prints : BeneficiaryCommand → Answer → String → Prop where
  | list {bs : List Beneficiary} {text : String} :
      (Value.list (bs.map Beneficiary.toValue)).jsonText = .ok text →
      Prints .list (.beneficiaries bs) text
  | template {v : Value} {text : String} : v.jsonText = .ok text →
      Prints .template (.choices v) text
  | add (o : AddOptions) (id : Int) : Prints (.add o) (.added id) s!"Added beneficiary {id}."
  | update (id : Int) (o : UpdateOptions) {changes : Fields} {text : String} :
      (Value.object changes).jsonText = .ok text →
      Prints (.update id o) (.updated changes) s!"Updated beneficiary {id}: {text}"
  | delete (id : Int) : Prints (.delete id) (.deactivated id) s!"Deactivated beneficiary {id}."

/-- What a command leads to is shown: an answer as a line, and a failure as it is. -/
inductive Shows (c : BeneficiaryCommand) : Except Fault Answer → Except Fault Output → Prop where
  | answer {a : Answer} {text : String} : c.Prints a text → Shows c (.ok a) (.ok (.line text))
  | fault (e : Fault) : Shows c (.error e) (.error e)

/-- A result is shown if the line for it can be printed. -/
theorem shows_bind {α : Type} {s : Store} {u : Update α} {f : α → Answer} {g : α → Update Output}
    (h : ∀ x t, u.result s = (.ok x, t) →
      ∃ text, c.Prints (f x) text ∧ (g x).result t = (.ok (.line text), t)) :
    c.Shows (f <$> (u.result s).1) ((u >>= g).result s).1 ∧
      ((u >>= g).result s).2 = (u.result s).2 := by
  rcases hu : u.result s with ⟨e | x, t⟩
  · rw [Update.result_bind_of_error hu]
    exact ⟨.fault e, rfl⟩
  · obtain ⟨text, htext, hg⟩ := h x t hu
    rw [Update.result_bind_of_ok hu, hg]
    exact ⟨.answer htext, rfl⟩

/-- A value that can be written is printed as its text. -/
theorem result_json {s : Store} {v : Value} {text : String} (h : v.jsonText = .ok text) :
    (Update.ofAct (.liftBreakdown (Output.json v))).result s = (.ok (.line text), s) := by
  rw [Update.result_ofAct, Output.json, h]
  rfl

end BeneficiaryCommand

namespace Beneficiaries

variable {s : Store} {user : User}

/-- The beneficiaries that a user may read can be written. -/
theorem writable_retrieveAll (hs : ∀ r ∈ s.beneficiaries, r.NumbersFit) {bs : List Beneficiary}
    (h : Registry.retrieveAll s user = .ok bs) :
    (Value.list (bs.map Beneficiary.toValue)).Writable := by
  obtain ⟨-, -, h⟩ := bind_eq_ok.1 h
  refine Value.all_list.2 ⟨rfl, fun v hv => ?_⟩
  obtain ⟨b, hb, rfl⟩ := List.mem_map.1 hv
  obtain ⟨r, hr, -, hread⟩ := Store.exists_of_mem_listActive (mapError_eq_ok.1 h) hb
  exact (hs r hr).writable hread

/-- The choices for a form can be written. -/
theorem writable_template : Registry.template.Writable := by
  refine Value.all_object.2 ⟨rfl, fun k v hv => ?_⟩
  cases List.mem_singleton.1 hv
  refine Value.all_list.2 ⟨rfl, fun v hv => ?_⟩
  obtain ⟨t, -, rfl⟩ := List.mem_map.1 hv
  refine Value.all_object.2 ⟨rfl, fun k v hv => ?_⟩
  simp only [List.mem_cons, Prod.mk.injEq, List.not_mem_nil, or_false] at hv
  rcases hv with ⟨-, rfl⟩ | ⟨-, rfl⟩ | ⟨-, rfl⟩
  · cases t <;> exact Value.writable_int rfl
  · exact Value.writable_text _
  · exact Value.writable_text _

/-- A command does what the operation does that it stands for, and shows what comes of it. -/
theorem shows_perform (hs : ∀ r ∈ s.beneficiaries, r.NumbersFit) (user : User)
    (c : BeneficiaryCommand) :
    c.Shows (c.operation.run user s).1 ((perform user c).result s).1 ∧
      ((perform user c).result s).2 = (c.operation.run user s).2 := by
  cases c with
  | list =>
    -- The store is looked at before the registry is asked.
    have hread : (Update.read .ok).result s = (.ok s, s) := rfl
    rw [perform, Update.result_bind_of_ok hread]
    refine BeneficiaryCommand.shows_bind (u := .ofAct (.lift (Registry.retrieveAll s user)))
      (f := .beneficiaries) fun bs t hbs => ?_
    have hretrieved : Registry.retrieveAll s user = .ok bs := congrArg Prod.fst hbs
    obtain rfl : s = t := congrArg Prod.snd hbs
    obtain ⟨text, htext⟩ := (writable_retrieveAll hs hretrieved).exists_jsonText
    exact ⟨text, .list htext, BeneficiaryCommand.result_json htext⟩
  | template =>
    obtain ⟨text, htext⟩ := writable_template.exists_jsonText
    rw [perform, BeneficiaryCommand.result_json htext]
    exact ⟨.answer (.template htext), rfl⟩
  | add options =>
    exact BeneficiaryCommand.shows_bind fun id t _ => ⟨_, .add options id, rfl⟩
  | update id options =>
    refine BeneficiaryCommand.shows_bind fun changes t hchanges => ?_
    obtain ⟨u, hu, rfl⟩ := Registry.exists_fields_of_update hchanges
    obtain ⟨text, htext⟩ := hu.writable.exists_jsonText
    refine ⟨_, .update id options htext, ?_⟩
    rw [htext]
    rfl
  | delete id =>
    refine BeneficiaryCommand.shows_bind fun id' t hid => ?_
    rcases Registry.deactivate_cases user id s with ⟨e, h⟩ | ⟨-, -, -, -, h⟩
    · cases h.symm.trans hid
    · cases h.symm.trans hid
      exact ⟨_, .delete id, rfl⟩

/-- What a command line ends with: the line of an answer on the standard output and status 0, the
lines of a refusal on the error stream and status 1, or a breakdown. -/
inductive Ends (c : BeneficiaryCommand) : Except Fault Answer → Except Fault Output → Prop where
  | answer {a : Answer} {text : String} : c.Prints a text →
      Ends c (.ok a) (.ok { status := 0, out := text ++ "\n", err := "" })
  | refusal (r : Refusal) : Ends c (.error (.refusal r)) (.ok {
      status := 1
      out := ""
      err := s!"{r.code}: {r.message}\n" ++ String.join (r.rejected.map errorLine) })
  | breakdown (b : Breakdown) : Ends c (.error (.breakdown b)) (.error (.breakdown b))

namespace Ends

variable {c : BeneficiaryCommand} {call : Except Fault Answer} {o : Except Fault Output}

/-- The status is 0 exactly if the operation answers. -/
theorem status_zero_iff (h : Ends c call o) :
    (∃ out, o = .ok out ∧ out.status = 0) ↔ ∃ a, call = .ok a := by
  cases h <;> simp

/-- The status is 1, with nothing on the standard output, exactly if the operation refuses. -/
theorem status_one_iff (h : Ends c call o) :
    (∃ out, o = .ok out ∧ out.status = 1 ∧ out.out = "") ↔ ∃ r, call = .error (.refusal r) := by
  cases h <;> simp

/-- A breakdown is passed on, and comes from nowhere else. -/
theorem breakdown_iff (h : Ends c call o) (b : Breakdown) :
    o = .error (.breakdown b) ↔ call = .error (.breakdown b) := by
  cases h <;> simp

end Ends

/-- The text of a refusal has its line first, and one for each rejected field. -/
theorem refusalText_eq (r : Refusal) : refusalText r =
    s!"{r.code}: {r.message}\n" ++ String.join (r.rejected.map errorLine) := by
  cases r <;> rfl

/-- Reporting refusals keeps the store that a command leaves. -/
theorem ends_reported {c : BeneficiaryCommand} {call : Except Fault Answer} {u : Update Output}
    (h : c.Shows call (u.result s).1) :
    Ends c call ((reported u).result s).1 ∧ ((reported u).result s).2 = (u.result s).2 := by
  refine ⟨?_, rfl⟩
  rcases hu : u s with ⟨⟨es, o⟩, t⟩
  simp only [Update.result, reported, Update.rescue, hu] at h ⊢
  cases h with
  | answer h => exact .answer h
  | fault e =>
    cases e with
    | breakdown b => exact .breakdown b
    | refusal r =>
      have hends := Ends.refusal (c := c) r
      rw [← refusalText_eq] at hends
      exact hends

end Beneficiaries

end CommandLine

end Remit
