import Remit.CommandLine.Beneficiaries
import Remit.Proofs.CommandLine.Words

/-!
# The line of a command

Every command of every user can be written on a line (`Beneficiaries.line`), with each option behind
its name and an equals sign, so that no text is taken for a switch. What is written is read back
(`Beneficiaries.read_line`), option by option: a step sets the field of its option and leaves the
others as they are.
-/

namespace Remit.CommandLine

open Remit.Text

namespace AddOptions

/-- The options that are given, as words. -/
def words (o : AddOptions) : List String :=
  Grammar.option "--name" o.name ++ (Grammar.option "--account-name" o.accountName ++
  (Grammar.option "--account-number" o.accountNumber ++
  (Grammar.option "--account-type" (o.accountType.map toString) ++
  (Grammar.option "--institution-name" o.institutionName ++
  (Grammar.option "--institution-code" o.institutionCode ++
  (Grammar.option "--currency-code" o.currencyCode ++
  (Grammar.option "--transfer-limit" o.transferLimit ++ [])))))))

/-- The names of the switches for adding a beneficiary are plain. -/
theorem namesPlain : grammar.NamesPlain := by
  unfold Grammar.NamesPlain
  decide

/-- The words of complete options are read as the options. -/
theorem read_words {o : AddOptions} (hcomplete : o.isComplete = true)
    (htype : ∀ i, o.accountType = some i → IsShort i) : grammar.read o.words = .ok (.add o) := by
  obtain ⟨name, accountName, accountNumber, accountType, institutionName, institutionCode,
    currencyCode, transferLimit⟩ := o
  -- One step for each option, from the empty record to the whole of it.
  refine Grammar.Completes.read ?_
  refine .option { name }
    ⟨namesPlain, ⟨_, rfl, rfl⟩, _, _, rfl⟩ (by cases name <;> rfl) ?_
  refine .option { name, accountName }
    ⟨namesPlain, ⟨_, rfl, rfl⟩, _, _, rfl⟩ (by cases accountName <;> rfl) ?_
  refine .option { name, accountName, accountNumber }
    ⟨namesPlain, ⟨_, rfl, rfl⟩, _, _, rfl⟩ (by cases accountNumber <;> rfl) ?_
  refine .option { name, accountName, accountNumber, accountType }
    ⟨namesPlain, ⟨_, rfl, rfl⟩, _, _, rfl⟩ ?_ ?_
  · cases accountType with
    | none => rfl
    | some i =>
      rw [Option.map_some, Option.elim_some, readInt?_toString (htype i rfl)]
      rfl
  refine .option { name, accountName, accountNumber, accountType, institutionName }
    ⟨namesPlain, ⟨_, rfl, rfl⟩, _, _, rfl⟩ (by cases institutionName <;> rfl) ?_
  refine .option { name, accountName, accountNumber, accountType, institutionName, institutionCode }
    ⟨namesPlain, ⟨_, rfl, rfl⟩, _, _, rfl⟩ (by cases institutionCode <;> rfl) ?_
  refine .option ⟨name, accountName, accountNumber, accountType, institutionName, institutionCode,
    currencyCode, none⟩ ⟨namesPlain, ⟨_, rfl, rfl⟩, _, _, rfl⟩ (by cases currencyCode <;> rfl) ?_
  refine .option ⟨name, accountName, accountNumber, accountType, institutionName, institutionCode,
    currencyCode, transferLimit⟩ ⟨namesPlain, ⟨_, rfl, rfl⟩, _, _, rfl⟩
    (by cases transferLimit <;> rfl) ?_
  exact .nil (if_pos hcomplete)

end AddOptions

namespace UpdateOptions

/-- The options that are given, as words. -/
def words (o : UpdateOptions) : List String :=
  Grammar.option "--name" o.name ++ (Grammar.option "--transfer-limit" o.transferLimit ++
  (if o.clearLimit then ["--clear-limit"] else []))

/-- The names of the switches for a change are plain. -/
theorem namesPlain : grammar.NamesPlain := by
  unfold Grammar.NamesPlain
  decide

/-- The words of options behind an id are read as the options. -/
theorem read_words {id : Int} {o : UpdateOptions} (hid : o.id = some id) (hshort : IsShort id) :
    grammar.read (toString id :: o.words) = .ok (.update id o) := by
  obtain ⟨id', name, transferLimit, clearLimit⟩ := o
  obtain rfl : id' = some id := hid
  refine Grammar.Completes.read ?_
  refine .operand { id := some id } (Grammar.toString_ne id) (Grammar.word?_toString namesPlain id)
    ?_ ?_
  · rw [readInt?_toString hshort]
    rfl
  refine .option { id := some id, name }
    ⟨namesPlain, ⟨_, rfl, rfl⟩, _, _, rfl⟩ (by cases name <;> rfl) ?_
  refine .option { id := some id, name, transferLimit }
    ⟨namesPlain, ⟨_, rfl, rfl⟩, _, _, rfl⟩ (by cases transferLimit <;> rfl) ?_
  cases clearLimit with
  | false => exact .nil rfl
  | true => exact .mark ⟨namesPlain, ⟨_, rfl, rfl⟩, _, _, rfl⟩ (by decide) (.nil rfl)

end UpdateOptions

namespace Beneficiaries

/-- The names of the switches in front of a command are plain. -/
theorem namesPlain : grammar.NamesPlain := by
  unfold Grammar.NamesPlain
  decide

/-- Deactivating has no switches but that for help. -/
theorem namesPlain_delete : deleteGrammar.NamesPlain := by
  unfold Grammar.NamesPlain
  decide

/-- The words of a command: its name and what stands behind it. -/
def words : BeneficiaryCommand → List String
  | .list => ["list"]
  | .template => ["template"]
  | .add options => "add" :: options.words
  | .update id options => "update" :: toString id :: options.words
  | .delete id => ["delete", toString id]

/-- The line of a command of a user: the user in front of the words of the command. -/
def line (user : User) (c : BeneficiaryCommand) : List String :=
  Grammar.assign "--user-id" (toString user.id) ::
    (user.permissions.map (Grammar.assign "--permission") ++ words c)

/-- Whether a command can be written on a line: what it requires is given, and its numbers are
short. -/
def Expressible : BeneficiaryCommand → Prop
  | .list | .template => True
  | .add options => options.isComplete = true ∧ ∀ i, options.accountType = some i → IsShort i
  | .update id options => options.id = some id ∧ IsShort id
  | .delete id => IsShort id

/-- The permissions of a user are read one after the other. -/
theorem completes_permissions {rest : List String} {i : Invocation BeneficiaryCommand} {id : Int}
    (ps qs : List String)
    (h : grammar.Completes rest grammar.operands { userId := some id, permissions := ps ++ qs } i) :
    grammar.Completes (qs.map (Grammar.assign "--permission") ++ rest) grammar.operands
      { userId := some id, permissions := ps } i := by
  induction qs generalizing ps with
  | nil => rwa [List.append_nil] at h
  | cons q qs ih =>
    refine .assign { userId := some id, permissions := ps ++ [q] }
      ⟨namesPlain, ⟨_, rfl, rfl⟩, _, _, rfl⟩ rfl (ih (ps ++ [q]) ?_)
    rwa [List.append_assoc]

/-- Reading goes on to the command whatever options stand behind it. -/
theorem sorts_option {name : String} (hname : '=' ∉ name.toList) {cs : List Char}
    (hdash : name.toList = '-' :: '-' :: cs)
    (hother : ∀ n ∈ ["-h", "--help", "--user-id", "--permission"],
      name.toList.isPrefixOf n.toList = false)
    (value : Option String) {rest : List String} (h : grammar.Sorts rest) :
    grammar.Sorts (Grammar.option name value ++ rest) :=
  Grammar.sorts_option (g := grammar) hname hdash hother value h

/-- The words behind the name of a command are sorted by the grammar in front of it. -/
theorem sorts_words (c : BeneficiaryCommand) : grammar.Sorts (words c).tail := by
  have hnil : grammar.Sorts [] := rfl
  cases c with
  | list | template => exact hnil
  | add o =>
    refine sorts_option (by decide) rfl (by decide) _ ?_
    refine sorts_option (by decide) rfl (by decide) _ ?_
    refine sorts_option (by decide) rfl (by decide) _ ?_
    refine sorts_option (by decide) rfl (by decide) _ ?_
    refine sorts_option (by decide) rfl (by decide) _ ?_
    refine sorts_option (by decide) rfl (by decide) _ ?_
    refine sorts_option (by decide) rfl (by decide) _ ?_
    exact sorts_option (by decide) rfl (by decide) _ hnil
  | update id o =>
    refine Grammar.sorts_cons (Grammar.toString_ne id)
      (Option.isSome_iff_exists.2 ⟨_, Grammar.word?_toString namesPlain id⟩) ?_
    refine sorts_option (by decide) rfl (by decide) _ ?_
    refine sorts_option (by decide) rfl (by decide) _ ?_
    split
    · exact Grammar.sorts_cons (by decide) rfl hnil
    · exact hnil
  | delete id =>
    exact Grammar.sorts_cons (Grammar.toString_ne id)
      (Option.isSome_iff_exists.2 ⟨_, Grammar.word?_toString namesPlain id⟩) hnil

/-- The line that deactivates a beneficiary is read by its id. -/
theorem read_delete {id : Int} (h : IsShort id) :
    deleteGrammar.read [toString id] = .ok (.delete id) := by
  refine Grammar.Completes.read (.operand (some id) (Grammar.toString_ne id)
    (Grammar.word?_toString namesPlain_delete id) ?_ (.nil rfl))
  rw [readInt?_toString h]
  rfl

/-- A command that can be written on a line is read from it. -/
theorem read_line {user : User} {c : BeneficiaryCommand} (huser : IsShort user.id)
    (hc : Expressible c) : grammar.read (line user c) = .ok ⟨user, .self, c⟩ := by
  have hsorts := sorts_words c
  refine Grammar.Completes.read ?_
  refine .assign { userId := some user.id } ⟨namesPlain, ⟨_, rfl, rfl⟩, _, _, rfl⟩ ?_ ?_
  · rw [readInt?_toString huser]
    rfl
  refine completes_permissions [] user.permissions ?_
  have hcommand {name : String} {rest : List String} (hname : name ≠ "--")
      (hword : grammar.word? name = some .plain) (hsorts : grammar.Sorts rest) {set}
      (hset : set name rest ⟨user.id, user.permissions, .self, none⟩ =
        .ok ⟨user.id, user.permissions, .self, some c⟩) :
      grammar.Completes (name :: rest) [.command set] ⟨user.id, user.permissions, .self, none⟩
        ⟨user, .self, c⟩ :=
    .command _ hname hword hsorts hset rfl
  cases c with
  | list | template => exact hcommand (by decide) rfl hsorts rfl
  | add o =>
    exact hcommand (by decide) rfl hsorts
      (congrArg (Except.map _) (AddOptions.read_words hc.1 hc.2))
  | update id o =>
    exact hcommand (by decide) rfl hsorts
      (congrArg (Except.map _) (UpdateOptions.read_words hc.1 hc.2))
  | delete id =>
    exact hcommand (by decide) rfl hsorts (congrArg (Except.map _) (read_delete hc))

example : line ⟨7, ["ALL_FUNCTIONS"]⟩ (.update (-3) { id := some (-3), clearLimit := true }) =
    ["--user-id=7", "--permission=ALL_FUNCTIONS", "update", "-3", "--clear-limit"] := by
  decide

end Beneficiaries

end Remit.CommandLine
