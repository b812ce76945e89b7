import Remit.Double.Printer
import Remit.Store.Basic

/-!
# Writing beneficiaries

The three writes of the table of beneficiaries: `Store.insert`, `Store.saveChanges` and
`Store.deactivate`. A write first puts its values into cells. A text column takes numbers as their
texts, and a whole number must fit its column; other kinds of values cannot be stored. (A database
that does not enforce the types of its columns would also take bytes, or a text that is no numeral
in a column of whole numbers; both count as unstorable here.) Then the constraints are tested
(`Violation`): no required column may be empty, and no two active rows of a user may have one name.
A write that breaks a constraint is refused and writes nothing.
-/

namespace Remit

/-- The row of a new beneficiary before its values are put into cells. -/
structure Draft where
  userId : Value
  name : Value
  accountName : Value
  accountNumber : Value
  accountType : Int
  institutionName : Value
  institutionCode : Value := .null
  currencyCode : Value := .null
  transferLimit : Value := .null
  accountId : Value := .null
  clientId : Value := .null
  officeId : Value := .null
  deriving Inhabited

/-- The row of a validated new beneficiary. -/
def NewBeneficiary.draft (b : NewBeneficiary) : Draft where
  userId := .int b.userId
  name := .text b.name
  accountName := .text b.accountName
  accountNumber := .text b.accountNumber
  accountType := b.accountType.number
  institutionName := .text b.institutionName
  institutionCode := b.institutionCode
  currencyCode := b.currencyCode
  transferLimit := .ofInt? b.transferLimit
  accountId := .ofInt? b.accountId
  clientId := .ofInt? b.clientId
  officeId := .ofInt? b.officeId

namespace Cell

/-- A value in a text column. -/
def text : Value → Except Breakdown (Option String)
  | .null | .double .nan => .ok none
  | .text s => .ok (some s)
  | .state s => .ok (some s.name)
  | .transferType t => .ok (some t.name)
  | .int i => do return some (toString (← column i))
  | .bool b => .ok (some (if b then "1" else "0"))
  | .double d => .ok (some d.fifteenDigits)
  | .date d => .ok (some d.iso)
  | .accountType t => .ok (some (toString t.number))
  | _ => .error .unstorable

/-- A value in a column of whole numbers. A numeral is stored as its number. -/
def int : Value → Except Breakdown (Option Int)
  | .null | .double .nan => .ok none
  | .int i => some <$> column i
  | .bool b => .ok (some (if b then 1 else 0))
  | .accountType t => .ok (some t.number)
  | .double d =>
    if d.toDecimal.isWhole && fitsColumn d.toDecimal.truncate then .ok (some d.toDecimal.truncate)
    else .error .unstorable
  | .text s =>
    match Text.readInt? s with
    | some i => if fitsColumn i then .ok (some i) else .error .unstorable
    | none => .error .unstorable
  | _ => .error .unstorable

end Cell

/-- A broken constraint of the table of beneficiaries. -/
inductive Violation where
  | missing (column : String)
  | nameTaken
  deriving DecidableEq, Repr

namespace Violation

/-- The name of the table in the words of a constraint. -/
def table : String := "m_selfservice_beneficiaries_tpt"

/-- How the store words a broken constraint. -/
def cause : Violation → String
  | missing column => s!"NOT NULL constraint failed: {table}.{column}"
  | nameTaken =>
    s!"UNIQUE constraint failed: {table}.name, {table}.app_user_id, {table}.is_active"

end Violation

/-- Whether the characters of a word stand somewhere in a row in a text. -/
def occursIn (word : List Char) : List Char → Bool
  | [] => word.isEmpty
  | c :: cs => word.isPrefixOf (c :: cs) || occursIn word cs

/-- Whether a word occurs in a text. -/
def mentions (word text : String) : Bool := occursIn word.toList text.toList

/-- What a store's words about a broken constraint mean to the user: a name is taken, if they speak
of a duplicate name; otherwise only that something is wrong, which is logged. -/
def integrityRefusal (cause : String) (name : Value) : Act Refusal := do
  let words := String.ofList (cause.toList.map Char.toLower)
  if (mentions "unique" words || mentions "duplicate" words) && mentions "name" words then
    return .duplicateName name
  Act.log .app .error s!"Unknown data integrity issue: {cause}"
  return .brokenIntegrity

namespace Store

/-- The id of the next row: one more than the largest. -/
def nextId (s : Store) : Int :=
  match (s.beneficiaries.map (·.id)).max? with
  | some id => id + 1
  | none => 1

/-- Whether another active row of a user has a name. The row `id` itself does not count. -/
def nameTaken (s : Store) (id : Int) (user : Int) (name : String) : Bool :=
  s.beneficiaries.any fun r => r.id != id && r.isActiveOf user && r.name == name

/-- A required cell. -/
def required {α : Type} (column : String) : Option α → Except Violation α
  | some a => .ok a
  | none => .error (.missing column)

/-- The store with another row. -/
def withRow (s : Store) (r : BeneficiaryRow) : Store :=
  { s with beneficiaries := s.beneficiaries ++ [r] }

/-- The store with the row of an id changed. -/
def mapRow (s : Store) (id : Int) (f : BeneficiaryRow → BeneficiaryRow) : Store :=
  { s with beneficiaries := s.beneficiaries.map fun r => if r.id = id then f r else r }

/-- The row of a draft, with the next id. The first value that does not fit its cell breaks down;
then the first empty required column counts. -/
def rowOf (s : Store) (d : Draft) : Except Breakdown (Except Violation BeneficiaryRow) := do
  let userId ← Cell.int d.userId
  let name ← Cell.text d.name
  let accountName ← Cell.text d.accountName
  let institutionName ← Cell.text d.institutionName
  let institutionCode ← Cell.text d.institutionCode
  let currencyCode ← Cell.text d.currencyCode
  let accountNumber ← Cell.text d.accountNumber
  let accountId ← Cell.int d.accountId
  let clientId ← Cell.int d.clientId
  let officeId ← Cell.int d.officeId
  let accountType ← column d.accountType
  let transferLimit ← Cell.int d.transferLimit
  return do
    let userId ← required "app_user_id" userId
    let name ← required "name" name
    let accountName ← required "account_name" accountName
    let institutionName ← required "institution_name" institutionName
    let accountNumber ← required "account_number" accountNumber
    return {
      id := s.nextId
      userId, name, accountName, institutionName, institutionCode, currencyCode, accountNumber,
      accountId, clientId, officeId, accountType, transferLimit }

/-- A row that may be added: no other active row of its user has its name. -/
def checkName (s : Store) (r : BeneficiaryRow) : Except Violation BeneficiaryRow :=
  if s.nameTaken r.id r.userId r.name then .error .nameTaken else .ok r

/-- Ends a write with the refusal of a broken constraint. -/
def refuseViolation {α : Type} (v : Violation) (name : Value) : Act α := do
  Act.refuse (← integrityRefusal v.cause name)

/-- Adds a row for a new beneficiary and returns its id. -/
def insert (d : Draft) : Update Int := fun s =>
  match s.rowOf d with
  | .error b => (.breakDown b, s)
  | .ok row =>
    match row.bind s.checkName with
    | .error v => (refuseViolation v d.name, s)
    | .ok r =>
      (do Act.log .app .info s!"Stored beneficiary {r.id} for user {Refusal.shown d.userId}"
          return r.id,
        s.withRow r)

/-- New cells for a row: those that a change supplies. An empty name is a broken constraint. -/
structure Cells where
  name : Option (Option String) := none
  transferLimit : Option (Option Int) := none
  deriving DecidableEq, Repr, Inhabited

namespace Cells

/-- The cells of supplied fields; other fields are not stored. -/
def ofFields (changes : Fields) : Except Breakdown Cells := do
  let name ← (changes.lookup "name").mapM Cell.text
  let transferLimit ← (changes.lookup "transferLimit").mapM Cell.int
  return { name, transferLimit }

/-- Whether no cell is supplied. -/
def isEmpty (c : Cells) : Bool := c.name.isNone && c.transferLimit.isNone

/-- A row with new cells, if it may have them. -/
def write (c : Cells) (s : Store) (r : BeneficiaryRow) : Except Violation BeneficiaryRow := do
  let name ← match c.name with
    | some name => required "name" name
    | none => .ok r.name
  let r := { r with name, transferLimit := c.transferLimit.getD r.transferLimit }
  if r.isActive then s.checkName r else return r

end Cells

/-- Writes the supplied name and limit into the row of an id, active or not. Without such a row, or
without such fields, nothing happens. -/
def saveChanges (id : Int) (changes : Fields) : Update Unit := fun s =>
  match Cells.ofFields changes with
  | .error b => (.breakDown b, s)
  | .ok cells =>
    if cells.isEmpty then (pure (), s)
    else
      match column id with
      | .error b => (.breakDown b, s)
      | .ok id =>
        match s.beneficiaries.find? (·.id == id) with
        | none => (pure (), s)
        | some r =>
          match cells.write s r with
          | .error v => (refuseViolation v (changes.get "name"), s)
          | .ok r => (pure (), s.mapRow id fun _ => r)

/-- Ends the use of a beneficiary. -/
def deactivate (id : Int) : Update Unit := fun s =>
  match column id with
  | .error b => (.breakDown b, s)
  | .ok id => (pure (), s.mapRow id fun r => { r with isActive := false })

end Store

end Remit
