import Remit.Proofs.Concurrency.Traffic

/-!
# Two requests at the same time

However the turns of two requests fall, one of them ends first, as if it were alone. The other one
then runs on what the first has left, or makes a write that it planned before (`Follows`,
`Traffic.follows_of_done`).
-/

namespace Remit

/-- One request ends as if it were alone. The other one ends after it: it runs on what the first
has left, or it makes the write that it planned on what there was before. -/
inductive Follows (s : Store) (first last : User × Change) :
    Except Fault Answer → Except Fault Answer → Store → Prop
  | inTurn : Follows s first last (first.2.run first.1 s).1
      (last.2.run last.1 (first.2.run first.1 s).2).1
      (last.2.run last.1 (first.2.run first.1 s).2).2
  | stale {w : Write} (h : last.2.plan last.1 s = .ok (some w)) :
      Follows s first last (first.2.run first.1 s).1
        (w.run (first.2.run first.1 s).2).1 (w.run (first.2.run first.1 s).2).2

/-- How far a request got that has written nothing. -/
inductive Looking (s : Store) (a : User × Change) : Progress → Prop
  | waiting : Looking s a .waiting
  | planned {w : Write} (h : a.2.plan a.1 s = .ok (some w)) : Looking s a (.planned w)

/-- How far the last request got, once the first has ended. -/
inductive Behind (s : Store) (first last : User × Change) : Progress → Store → Prop
  | looking {q : Progress} (h : Looking (first.2.run first.1 s).2 last q) :
      Behind s first last q (first.2.run first.1 s).2
  | stale {w : Write} (h : last.2.plan last.1 s = .ok (some w)) :
      Behind s first last (.planned w) (first.2.run first.1 s).2
  | done {o : Except Fault Answer} {t : Store}
      (h : Follows s first last (first.2.run first.1 s).1 o t) : Behind s first last (.done o) t

/-- How far two requests got. -/
inductive Pair (s : Store) (a b : User × Change) : Progress → Progress → Store → Prop
  | looking {p q : Progress} (hp : Looking s a p) (hq : Looking s b q) : Pair s a b p q s
  | first {q : Progress} {t : Store} (h : Behind s a b q t) :
      Pair s a b (.done (a.2.run a.1 s).1) q t
  | second {p : Progress} {t : Store} (h : Behind s b a p t) :
      Pair s a b p (.done (b.2.run b.1 s).1) t

variable {s t : Store} {a b : User × Change} {p q : Progress}

/-- A turn of a request that has written nothing leaves the store as it is, or ends the request as
if it were alone. -/
theorem Looking.advance (h : Looking s a p) :
    (∃ p', Looking s a p' ∧ Flight.advance ⟨a.1, a.2, p⟩ s = (p', s)) ∨
      Flight.advance ⟨a.1, a.2, p⟩ s = (.done (a.2.run a.1 s).1, (a.2.run a.1 s).2) := by
  cases h with
  | waiting =>
    cases hplan : a.2.plan a.1 s with
    | error e =>
      right
      simp only [Flight.advance, Change.run, hplan]
    | ok w =>
      cases w with
      | none =>
        right
        simp only [Flight.advance, Change.run, hplan]
      | some w =>
        left
        exact ⟨.planned w, .planned hplan, by simp only [Flight.advance, hplan]⟩
  | planned hplan =>
    right
    simp only [Flight.advance, Change.run, hplan]

/-- A turn of the last request. -/
theorem Behind.advance (h : Behind s a b q t) :
    Behind s a b (Flight.advance ⟨b.1, b.2, q⟩ t).1 (Flight.advance ⟨b.1, b.2, q⟩ t).2 := by
  cases h with
  | looking hq =>
    rcases hq.advance with ⟨q', hq', ha⟩ | ha <;> rw [ha]
    · exact .looking hq'
    · exact .done .inTurn
  | stale hplan => exact .done (.stale hplan)
  | done hfollows => exact .done hfollows

namespace Pair

theorem symm (h : Pair s a b p q t) : Pair s b a q p t := by
  cases h with
  | looking hp hq => exact .looking hq hp
  | first h => exact .second h
  | second h => exact .first h

/-- A turn of the one request, with the other one as it is. -/
theorem advance (h : Pair s a b p q t) :
    Pair s a b (Flight.advance ⟨a.1, a.2, p⟩ t).1 q (Flight.advance ⟨a.1, a.2, p⟩ t).2 := by
  cases h with
  | looking hp hq =>
    rcases hp.advance with ⟨p', hp', ha⟩ | ha <;> rw [ha]
    · exact .looking hp' hq
    · -- what the other one has planned is stale now, unless there is nothing planned
      refine .first ?_
      cases hq with
      | waiting => exact .looking .waiting
      | planned hplan => exact .stale hplan
  | first h => exact .first h
  | second h => exact .second h.advance

/-- Of two requests that have ended, one follows the other. -/
theorem follows {o o' : Except Fault Answer} (h : Pair s a b (.done o) (.done o') t) :
    Follows s a b o o' t ∨ Follows s b a o' o t := by
  cases h with
  | looking hp hq => cases hp
  | first h =>
    cases h with
    | looking hq => cases hq
    | done h => exact .inl h
  | second h =>
    cases h with
    | looking hp => cases hp
    | done h => exact .inr h

end Pair

/-- However the turns of two requests fall, they get through it as a pair. -/
theorem Traffic.exists_pair (s : Store) (a b : User × Change) (turns : List Nat) :
    ∃ t p q, (start s [a, b]).run turns = ⟨t, [⟨a.1, a.2, p⟩, ⟨b.1, b.2, q⟩]⟩ ∧
      Pair s a b p q t := by
  refine run_induction (P := fun traffic => ∃ t p q,
    traffic = ⟨t, [⟨a.1, a.2, p⟩, ⟨b.1, b.2, q⟩]⟩ ∧ Pair s a b p q t) ?_ ?_ turns
  · exact ⟨s, .waiting, .waiting, rfl, .looking .waiting .waiting⟩
  · rintro _ i ⟨t, p, q, rfl, h⟩
    match i with
    | 0 => exact ⟨_, _, _, rfl, h.advance⟩
    | 1 => exact ⟨_, _, _, rfl, h.symm.advance.symm⟩
    | _ + 2 => exact ⟨t, p, q, rfl, h⟩

/-- However the turns of two requests fell, when both have ended, one follows the other. -/
theorem Traffic.follows_of_done {turns : List Nat} {o o' : Except Fault Answer}
    (h : ((start s [a, b]).run turns).flights.map (·.progress) = [.done o, .done o']) :
    Follows s a b o o' ((start s [a, b]).run turns).store ∨
      Follows s b a o' o ((start s [a, b]).run turns).store := by
  obtain ⟨t, p, q, hrun, hpair⟩ := exists_pair s a b turns
  rw [hrun] at h ⊢
  simp only [List.map_cons, List.map_nil, List.cons.injEq, and_true] at h
  obtain ⟨rfl, rfl⟩ := h
  exact hpair.follows

end Remit
