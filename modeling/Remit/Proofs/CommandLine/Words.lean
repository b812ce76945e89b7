import Mathlib.Data.List.TakeWhile
import Remit.CommandLine.Reader
import Remit.Proofs.Text.Integer

/-!
# Words in turn

Words of a few forms are sorted alike by every grammar with plain names (`Grammar.NamesPlain`): a
name, a name with a value behind an equals sign, and a number. Reading a line is followed from its
end to its front by `Grammar.Completes`: the rest of a line leads from what was read before to a
result, and a word in front of it leads there from what was read before the word.
-/

namespace Remit.CommandLine

open Remit.Text

namespace Grammar

variable {α β : Type} {g : Grammar α β}

/-! ## Sorting words -/

/-- An assignment is split at its equals sign. -/
theorem splitAtEquals?_append {name : List Char} (h : '=' ∉ name) (value : List Char) :
    splitAtEquals? (name ++ '=' :: value) = some (name, value) := by
  have hname : ∀ c ∈ name, (c != '=') = true := fun c hc => bne_iff_ne.2 fun heq => h (heq ▸ hc)
  rw [splitAtEquals?, List.dropWhile_append_of_pos hname, List.takeWhile_append_of_pos hname]
  simp

/-- No name of a switch has an equals sign in it, nor a digit behind its dash. -/
def NamesPlain (g : Grammar α β) : Prop :=
  ∀ n ∈ g.named.map (·.1), '=' ∉ n.toList ∧ (n.toList[1]?.all fun c => !c.isDigit) = true

/-- What is no name is no switch. -/
theorem switch?_eq_none {s : String} (h : s ∉ g.named.map (·.1)) : g.switch? s = none := by
  rw [switch?, List.lookup_eq_none_iff]
  exact fun p hp => bne_iff_ne.2 fun heq => h (heq ▸ List.mem_map_of_mem hp)

/-- The name of a switch with a value behind an equals sign. -/
def assign (name value : String) : String := name ++ "=" ++ value

/-- A name and a value with an equals sign between them, character by character. -/
theorem toList_assign (name value : String) :
    (assign name value).toList = name.toList ++ '=' :: value.toList := by
  rw [assign, String.toList_append, String.toList_append, List.append_assoc]
  rfl

/-- An assignment is no name of a switch. -/
theorem switch?_assign (hg : g.NamesPlain) (name value : String) :
    g.switch? (assign name value) = none := by
  refine switch?_eq_none fun h => (hg _ h).1 ?_
  rw [toList_assign]
  exact List.mem_append_right _ List.mem_cons_self

/-- A switch is found under one of its names. -/
theorem mem_of_switch? {name : String} {s : Switch α} (h : g.switch? name = some s) :
    name ∈ g.named.map (·.1) := by
  by_contra hnone
  rw [switch?_eq_none hnone] at h
  cases h

/-- The name of a switch is sorted as the switch. -/
theorem word?_name {name : String} {s : Switch α} (hs : g.switch? name = some s) {c : Char}
    {cs : List Char} (hname : name.toList = '-' :: c :: cs) :
    g.word? name = some (.switch s name none) := by
  rw [word?, hname]
  simp only [hs]

/-- An assignment to a switch is sorted as the switch with a value attached. -/
theorem word?_assign (hg : g.NamesPlain) {name : String} {s : Switch α}
    (hs : g.switch? name = some s) {c : Char} {cs : List Char}
    (hname : name.toList = '-' :: c :: cs) (value : String) :
    g.word? (assign name value) = some (.switch s name (some ⟨true, value.toList⟩)) := by
  have hplain := (hg name (mem_of_switch? hs)).1
  have hassignment : g.assignment? (name.toList ++ '=' :: value.toList) =
      some (.switch s name (some ⟨true, value.toList⟩)) := by
    rw [assignment?, splitAtEquals?_append hplain]
    simp only [Option.bind_eq_bind, Option.bind_some, String.ofList_toList, hs]
    rfl
  have htext := toList_assign name value
  rw [hname, List.cons_append, List.cons_append] at htext hassignment
  rw [word?, htext]
  simp only [switch?_assign hg, hassignment]

/-- An assignment to what is no switch means nothing, but is no reason to stop. -/
theorem isSome_word?_assign {name : String} (hname : '=' ∉ name.toList) {cs : List Char}
    (hdash : name.toList = '-' :: '-' :: cs)
    (hother : ∀ n ∈ g.named.map (·.1), name.toList.isPrefixOf n.toList = false) (value : String) :
    (g.word? (assign name value)).isSome = true := by
  have hreadings : g.readings (name.toList ++ '=' :: value.toList) = [] := by
    have hlong : g.readings (name.toList ++ '=' :: value.toList) =
        g.longReadings (name.toList ++ '=' :: value.toList) := by
      rw [hdash]
      rfl
    rw [hlong, longReadings, splitAtEquals?_append hname]
    refine List.filterMap_eq_nil_iff.2 fun p hp => if_neg ?_
    rw [hother p.1 (List.mem_map_of_mem hp)]
    exact Bool.false_ne_true
  have htext := toList_assign name value
  rw [hdash, List.cons_append, List.cons_append] at htext hreadings
  rw [word?, htext]
  simp only [hreadings]
  cases g.switch? (assign name value) with
  | some s => rfl
  | none => cases g.assignment? ('-' :: '-' :: (cs ++ '=' :: value.toList)) <;> rfl

/-- Digits behind a minus are a negative number. -/
theorem isNegativeNumber_of_isDigit {c : Char} {cs : List Char}
    (h : ∀ d ∈ c :: cs, d.isDigit = true) : isNegativeNumber ('-' :: c :: cs) = true := by
  have hdigit : ∀ d ∈ c :: cs, Text.isDigit d = true := fun d hd => by
    rw [Text.isDigit, digitValue?_ascii (h d hd)]
    rfl
  have hlast : (c :: cs).getLast? ≠ some '\n' := fun hlast => by
    have := h _ (List.mem_of_getLast? hlast)
    revert this
    decide
  have hdrop : (c :: cs).dropWhile Text.isDigit = [] := List.dropWhile_eq_nil_iff.2 hdigit
  rw [isNegativeNumber]
  simp only [if_neg hlast, hdrop]
  rfl

/-- A text with a dash and a digit in front is no name of a switch, nor the front of one. -/
theorem not_name_of_isDigit (hg : g.NamesPlain) {n : String} (hn : n ∈ g.named.map (·.1)) {c : Char}
    (hc : c.isDigit = true) : n.toList[1]? ≠ some c := by
  intro h
  have hplain := (hg n hn).2
  rw [h] at hplain
  simp [hc] at hplain

/-- A number is not the mark behind which all words are values. -/
theorem toString_ne (i : Int) : toString i ≠ "--" := by
  intro h
  obtain ⟨c, cs, hcs, hc⟩ := exists_toDigits i.natAbs
  have htext := toList_toString i
  rw [h, hcs] at htext
  split at htext <;> cases htext <;> cases hc

/-- A number is an operand. -/
theorem word?_toString (hg : g.NamesPlain) (i : Int) : g.word? (toString i) = some .plain := by
  obtain ⟨c, cs, hcs, hc⟩ := exists_toDigits i.natAbs
  have htext := toList_toString i
  rw [hcs] at htext
  by_cases hi : 0 ≤ i
  · rw [if_pos hi, List.nil_append] at htext
    rw [word?, htext]
    split
    · next heq =>
      obtain ⟨rfl, -⟩ := List.cons.inj heq
      cases hc
    · rfl
  · rw [if_neg hi, List.singleton_append] at htext
    have hdigit : ∀ d ∈ c :: cs, d.isDigit = true := fun d hd =>
      Nat.isDigit_of_mem_toDigits (b := 10) (n := i.natAbs) (by decide) (by decide) (hcs ▸ hd)
    have hswitch : g.switch? (toString i) = none := switch?_eq_none fun hn =>
      not_name_of_isDigit hg hn hc (by rw [htext]; rfl)
    have hassignment : g.assignment? ('-' :: c :: cs) = none := by
      have hdrop : ('-' :: c :: cs).dropWhile (· != '=') = [] := by
        refine List.dropWhile_eq_nil_iff.2 fun d hd => bne_iff_ne.2 ?_
        rintro rfl
        rcases List.mem_cons.1 hd with heq | hd
        · cases heq
        · cases hdigit _ hd
      rw [assignment?, splitAtEquals?, hdrop]
      rfl
    have hreadings : g.readings ('-' :: c :: cs) = [] := by
      unfold readings
      split
      · next heq =>
        cases (List.cons.inj (List.cons.inj heq).2).1
        cases hc
      refine List.filterMap_eq_nil_iff.2 fun ⟨n, s⟩ hp => ?_
      have hname := not_name_of_isDigit hg (List.mem_map_of_mem hp) hc
      have hfront : n.toList ≠ ('-' :: c :: cs).take 2 := fun heq => hname (by rw [heq]; rfl)
      have hprefix : ('-' :: c :: cs).isPrefixOf n.toList = false := by
        refine Bool.eq_false_iff.2 fun hprefix => hname ?_
        obtain ⟨rest, hrest⟩ := List.isPrefixOf_iff_prefix.1 hprefix
        rw [← hrest]
        rfl
      simp only [if_neg hfront, hprefix, Bool.false_eq_true, if_false]
    rw [word?, htext]
    simp only [hswitch, hassignment, hreadings, isNegativeNumber_of_isDigit hdigit, Bool.true_or,
      if_true]

/-! ## Words in turn -/

/-- The rest of a line leads from what was read before to a result, with these operands still
open. -/
def Completes (g : Grammar α β) (line : List String) (operands : List (Operand α)) (a : α) (b : β) :
    Prop :=
  ∃ ws, g.words? line = some ws ∧ ∀ p : Progress α, p.value = a → p.operands = operands →
    p.leftOver = false → ∃ p', g.consume ws p = .ok p' ∧ p'.leftOver = false ∧ p'.operands = [] ∧
      g.finish p'.value = some b

variable {rest : List String} {operands : List (Operand α)} {a a' : α} {b : β}

/-- A whole line leads to what is read from it. -/
theorem Completes.read {line : List String} (h : g.Completes line g.operands g.start b) :
    g.read line = .ok b := by
  obtain ⟨ws, hws, h⟩ := h
  obtain ⟨p, hp, hleft, hoperands, hfinish⟩ :=
    h { value := g.start, operands := g.operands } rfl rfl rfl
  rw [Grammar.read, hws]
  simp only [hp, hleft, hoperands, hfinish, bind, Except.bind]
  rfl

/-- At the end of a line, what was read so far is the result. -/
theorem Completes.nil (h : g.finish a = some b) : g.Completes [] [] a b :=
  ⟨[], rfl, fun p hvalue hoperands hleft => ⟨p, rfl, hleft, hoperands, hvalue ▸ h⟩⟩

/-- A word is sorted in front of the others. -/
theorem words?_cons {s : String} {w : Word α} {ws : List (String × Word α)} (hs : s ≠ "--")
    (hw : g.word? s = some w) (hws : g.words? rest = some ws) :
    g.words? (s :: rest) = some ((s, w) :: ws) := by
  rw [words?, if_neg hs, hw, hws]
  rfl

/-- A switch of the grammar has a name of its own, with a dash in front. -/
structure HasSwitch (g : Grammar α β) (name : String) (e : Effect α) : Prop where
  names : g.NamesPlain
  effect : ∃ s, g.switch? name = some s ∧ s.effect = e
  dash : ∃ c cs, name.toList = '-' :: c :: cs

/-- A name with a value is not the mark behind which all words are values. -/
theorem assign_ne (name value : String) : assign name value ≠ "--" := by
  intro h
  have htext := congrArg String.toList h
  rw [toList_assign] at htext
  have hmem : '=' ∈ name.toList ++ '=' :: value.toList := List.mem_append_right _ List.mem_cons_self
  rw [htext] at hmem
  revert hmem
  decide

/-- A switch takes the value that is attached to it. -/
theorem cluster_take (set : String → α → Option α) (short : Bool) (value : String) :
    g.cluster (.take set) short true value.toList = .ok { steps := [Cluster.give set value] } := by
  have hvalue : String.ofList value.toList = value := String.ofList_toList
  cases htext : value.toList with
  | nil =>
    rw [htext] at hvalue
    rw [← hvalue]
    rfl
  | cons c cs =>
    rw [htext] at hvalue
    rw [← hvalue]
    rfl

/-- An assignment sets what its switch sets. -/
theorem Completes.assign {name value : String} {set : String → α → Option α} (a' : α)
    (hg : g.HasSwitch name (.take set)) (hset : set value a = some a')
    (h : g.Completes rest operands a' b) :
    g.Completes (Grammar.assign name value :: rest) operands a b := by
  obtain ⟨hnames, ⟨s, hs, heffect⟩, c, cs, hname⟩ := hg
  obtain ⟨ws, hws, h⟩ := h
  -- The value is attached, so that the switch does not wait for the next word.
  refine ⟨_, words?_cons (assign_ne name value) (word?_assign hnames hs hname value) hws, ?_⟩
  rintro p rfl rfl hleft
  have hgive : Cluster.give set value p.value = .ok a' := by rw [Cluster.give, hset]
  obtain ⟨p', hp', hend⟩ := h (p.proceed a') rfl rfl hleft
  refine ⟨p', ?_, hend⟩
  rw [consume, clusterOf, heffect, cluster_take]
  simp only [bind, Except.bind, Cluster.run, List.foldlM_cons, List.foldlM_nil, Bool.false_eq_true,
    if_false, hgive]
  exact hp'

/-- A switch that stands alone sets what it sets. -/
theorem Completes.mark {name : String} {set : α → α} (hg : g.HasSwitch name (.mark set))
    (hname : name ≠ "--") (h : g.Completes rest operands (set a) b) :
    g.Completes (name :: rest) operands a b := by
  obtain ⟨-, ⟨s, hs, heffect⟩, c, cs, hdash⟩ := hg
  obtain ⟨ws, hws, h⟩ := h
  refine ⟨_, words?_cons hname (word?_name hs hdash) hws, ?_⟩
  rintro p rfl rfl hleft
  obtain ⟨p', hp', hend⟩ := h (p.proceed (set p.value)) rfl rfl hleft
  refine ⟨p', ?_, hend⟩
  rw [consume, clusterOf, heffect]
  exact hp'

/-- A plain word goes to the first open operand. -/
theorem Completes.operand {s : String} {set : String → α → Option α} (a' : α) (hs : s ≠ "--")
    (hword : g.word? s = some .plain) (hset : set s a = some a')
    (h : g.Completes rest operands a' b) :
    g.Completes (s :: rest) (.single set :: operands) a b := by
  obtain ⟨ws, hws, h⟩ := h
  refine ⟨_, words?_cons hs hword hws, ?_⟩
  rintro p rfl hoperands hleft
  have hfill : p.fill set operands s true =
      .ok { p with value := a', operands := operands, afterOperand := true } := by
    rw [Progress.fill, Cluster.give, hset]
    rfl
  obtain ⟨p', hp', hend⟩ := h { p with value := a', operands := operands, afterOperand := true }
    rfl rfl hleft
  refine ⟨p', ?_, hend⟩
  rw [consume, hoperands]
  simp only [hfill]
  exact hp'

/-- Whether a line holds no word that stops its reading in front of a command. -/
def Sorts (g : Grammar α β) (line : List String) : Prop := (g.words? line).isSome = true

/-- A command takes the rest of the line, whatever the words in it look like in front of it. -/
theorem Completes.command {s : String} {set : String → List String → α → Except Stop α}
    (a' : α) (hs : s ≠ "--") (hword : g.word? s = some .plain) (hrest : g.Sorts rest)
    (hset : set s rest a = .ok a') (hfinish : g.finish a' = some b) :
    g.Completes (s :: rest) [.command set] a b := by
  obtain ⟨ws, hws⟩ := Option.isSome_iff_exists.1 hrest
  refine ⟨_, words?_cons hs hword hws, ?_⟩
  rintro p rfl hoperands hleft
  refine ⟨{ p with value := a', operands := [] }, ?_, hleft, rfl, hfinish⟩
  rw [consume, hoperands]
  simp only [map_fst_of_words? hws, hset]
  rfl

/-! ## Options -/

/-- The words of an option, if it is given. -/
def option (name : String) (value : Option String) : List String :=
  (value.map (assign name)).toList

/-- An option sets what its switch sets if it is given, and leaves everything else as it is. -/
theorem Completes.option {name : String} {value : Option String} {set : String → α → Option α}
    (a' : α) (hg : g.HasSwitch name (.take set))
    (hset : (value.elim (some a) fun v => set v a) = some a')
    (h : g.Completes rest operands a' b) :
    g.Completes (Grammar.option name value ++ rest) operands a b := by
  cases value with
  | none =>
    cases hset
    exact h
  | some v => exact .assign a' hg hset h

/-- A word that can be sorted may stand in front of others. -/
theorem sorts_cons {s : String} (hs : s ≠ "--") (hword : (g.word? s).isSome = true)
    (h : g.Sorts rest) : g.Sorts (s :: rest) := by
  obtain ⟨w, hw⟩ := Option.isSome_iff_exists.1 hword
  obtain ⟨ws, hws⟩ := Option.isSome_iff_exists.1 h
  rw [Sorts, words?_cons hs hw hws]
  rfl

/-- An option with its value may stand in front of others. -/
theorem sorts_option {name : String} (hname : '=' ∉ name.toList) {cs : List Char}
    (hdash : name.toList = '-' :: '-' :: cs)
    (hother : ∀ n ∈ g.named.map (·.1), name.toList.isPrefixOf n.toList = false)
    (value : Option String) (h : g.Sorts rest) : g.Sorts (option name value ++ rest) := by
  cases value with
  | none => exact h
  | some v => exact sorts_cons (assign_ne name v) (isSome_word?_assign hname hdash hother v) h

end Grammar

end Remit.CommandLine
