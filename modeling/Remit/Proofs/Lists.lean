import Mathlib.Data.List.Forall2
import Mathlib.Data.List.Nodup
import Remit.Proofs.Journal

/-!
# Lists

A step for each member of a list, one after the other: all of them end well, or one fails
(`mapM_cases`), and those that end well give their results in order (`forall₂_of_mapM`). Named
entries are sorted by their names, in whatever order they come (`mergeSort_eq_of_perm`).
-/

namespace Remit

variable {ε α β : Type} {f g : α → Except ε β} {l : List α}

theorem mapM_congr (h : ∀ x ∈ l, f x = g x) : l.mapM f = l.mapM g := by
  induction l with
  | nil => rfl
  | cons x l ih =>
    rw [List.mapM_cons, List.mapM_cons, h x List.mem_cons_self,
      ih fun y hy => h y (List.mem_cons_of_mem _ hy)]

/-- All members in turn end well, or one of them fails. -/
theorem mapM_cases (f : α → Except ε β) (l : List α) :
    ((∀ x ∈ l, ∃ y, f x = .ok y) ∧ ∃ ys, l.mapM f = .ok ys) ∨
      ∃ x ∈ l, ∃ e, f x = .error e ∧ l.mapM f = .error e := by
  induction l with
  | nil => exact .inl ⟨nofun, [], rfl⟩
  | cons x l ih =>
    rw [List.mapM_cons]
    cases hx : f x with
    | error e => exact .inr ⟨x, List.mem_cons_self, e, hx, rfl⟩
    | ok y =>
      rcases ih with ⟨hall, ys, hys⟩ | ⟨x', hx', e, he, herror⟩
      · exact .inl ⟨List.forall_mem_cons.2 ⟨⟨y, hx⟩, hall⟩, y :: ys, by rw [hys]; rfl⟩
      · exact .inr ⟨x', List.mem_cons_of_mem _ hx', e, he, by rw [herror]; rfl⟩

/-- Members that end well in turn give their results in order. -/
theorem forall₂_of_mapM {ys : List β} (h : l.mapM f = .ok ys) :
    List.Forall₂ (fun x y => f x = .ok y) l ys := by
  induction l generalizing ys with
  | nil =>
    cases h
    exact .nil
  | cons x l ih =>
    rw [List.mapM_cons] at h
    obtain ⟨y, hy, h⟩ := bind_eq_ok.1 h
    obtain ⟨ys', hys, h⟩ := bind_eq_ok.1 h
    cases h
    exact .cons hy (ih hys)

/-- A member of the second of two related lists is related to one of the first. -/
theorem exists_of_mem_forall₂ {R : α → β → Prop} {l' : List β}
    (h : List.Forall₂ R l l') {b : β} (hb : b ∈ l') : ∃ a ∈ l, R a b := by
  induction h with
  | nil => cases hb
  | cons hab _ ih =>
    rcases List.mem_cons.1 hb with rfl | hb
    · exact ⟨_, List.mem_cons_self, hab⟩
    · obtain ⟨a, ha, hr⟩ := ih hb
      exact ⟨a, List.mem_cons_of_mem _ ha, hr⟩

/-- What follows for each member of the first list from its relation to one of the second. -/
theorem forall₂_imp_of_mem {R S : α → β → Prop} {l' : List β} (h : List.Forall₂ R l l')
    (himp : ∀ a ∈ l, ∀ b, R a b → S a b) : List.Forall₂ S l l' :=
  ((List.forall₂_and_left l l').2 ⟨himp, h⟩).imp fun _ b hab => hab.1 b hab.2

/-- Entries of different names are sorted to one list, in whatever order they were. -/
theorem mergeSort_eq_of_perm {l l' : List (String × β)} (h : l.Perm l')
    (hnodup : (l.map (·.1)).Nodup) :
    (l.mergeSort fun a b => a.1 ≤ b.1) = l'.mergeSort fun a b => a.1 ≤ b.1 := by
  have hsorted (l : List (String × β)) :
      (l.mergeSort fun a b => a.1 ≤ b.1).Pairwise fun a b => decide (a.1 ≤ b.1) = true := by
    refine List.pairwise_mergeSort (fun a b c hab hbc => ?_) (fun a b => ?_) l
    · exact decide_eq_true (String.le_trans (of_decide_eq_true hab) (of_decide_eq_true hbc))
    · simpa using String.le_total a.1 b.1
  refine List.Perm.eq_of_pairwise (fun a b ha hb hab hba => ?_) (hsorted l) (hsorted l')
    ((List.mergeSort_perm l _).trans (h.trans (List.mergeSort_perm l' _).symm))
  exact List.inj_on_of_nodup_map hnodup (List.mem_mergeSort.1 ha)
    (h.mem_iff.2 (List.mem_mergeSort.1 hb))
    (String.le_antisymm (of_decide_eq_true hab) (of_decide_eq_true hba))

end Remit
