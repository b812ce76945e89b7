import Remit.Proofs.Json.Scalars

/-!
# Reading what was written

The members of an array and the fields of an object are read one after the other
(`items?_of_reads`, `members?_of_reads`), with fuel that no text uses up: each step takes a unit and
at least one character. The text of a value stands for its plain form with the fields in increasing
order of their names (`Value.read?_json`), which is the plain form but for the order
(`Value.reordered_ordered`). Doubles are left out: what is written of one is a shortest text.
-/

namespace Remit

namespace Json

/-! ## Arrays -/

/-- There is nothing to skip in front of a character that is no space. -/
theorem skipSpace_cons {c : Char} (h : isSpace c = false) (cs : List Char) :
    skipSpace (c :: cs) = c :: cs :=
  List.dropWhile_cons_of_neg (by rw [h]; decide)

/-- What starts a value has no spaces in front. -/
theorem Starts.skipSpace {cs : List Char} (h : Starts cs) (rest : List Char) :
    skipSpace (cs ++ rest) = cs ++ rest := by
  obtain ⟨c, cs', rfl, hspace, -, -⟩ := h
  exact Json.skipSpace_cons hspace _

/-- A space behind a comma or a colon is skipped. -/
theorem Starts.skipSpace_cons {cs : List Char} (h : Starts cs) (rest : List Char) :
    Json.skipSpace (' ' :: (cs ++ rest)) = cs ++ rest :=
  h.skipSpace rest

/-- How a text starts does not depend on what follows it. -/
theorem Starts.append {cs : List Char} (h : Starts cs) (ds : List Char) : Starts (cs ++ ds) := by
  obtain ⟨c, cs', rfl, hspace, hbracket, hbrace⟩ := h
  exact ⟨c, cs' ++ ds, rfl, hspace, hbracket, hbrace⟩

/-- What stands between the brackets of an array or the braces of an object. -/
def listed (css : List (List Char)) : List Char := [',', ' '].intercalate css

theorem listed_singleton (cs : List Char) : listed [cs] = cs := by simp [listed]

/-- Between two members there are a comma and a blank. -/
theorem listed_cons_cons (cs cs' : List Char) (css : List (List Char)) :
    listed (cs :: cs' :: css) = cs ++ ',' :: ' ' :: listed (cs' :: css) := by
  rw [listed, List.intercalate_cons_cons, List.append_assoc]
  rfl

/-- Members with commas between them, character by character. -/
theorem toList_intercalate (ss : List String) :
    (", ".intercalate ss).toList = listed (ss.map String.toList) :=
  String.toList_intercalate

/-- Members start as the first of them does. -/
theorem starts_listed {cs : List Char} {css : List (List Char)} (h : Starts cs) :
    Starts (listed (cs :: css)) := by
  cases css with
  | nil => rwa [listed_singleton]
  | cons cs' css =>
    rw [listed_cons_cons]
    exact h.append _

/-- The members of an array are read one after the other. -/
theorem items?_of_reads {css : List (List Char)} {ws : List Value}
    (h : List.Forall₂ (fun cs w => Starts cs ∧ Reads cs w) css ws) (hne : css ≠ []) (fuel : Nat)
    (hfuel : (listed css).length + 1 < fuel) (rest : List Char) :
    items? fuel (listed css ++ ']' :: rest) = some (ws, rest) := by
  -- Each step takes a unit of fuel, and the text in front of the next step is shorter.
  induction h generalizing fuel with
  | nil => exact absurd rfl hne
  | @cons cs w css ws hcs hrest ih =>
    obtain ⟨fuel, rfl⟩ := Nat.exists_eq_add_one_of_ne_zero (Nat.ne_zero_of_lt hfuel)
    obtain ⟨-, hreads⟩ := hcs
    cases hrest with
    | nil =>
      rw [listed_singleton] at hfuel ⊢
      rw [items?, hreads fuel (']' :: rest) (by omega) (.cons (.inr (.inl rfl)))]
      rfl
    | @cons cs' w' css' ws' hcs' hrest' =>
      rw [listed_cons_cons] at hfuel ⊢
      simp only [List.length_append, List.length_cons] at hfuel
      have hitems := ih (List.cons_ne_nil _ _) fuel (by omega)
      rw [List.append_assoc, items?, List.cons_append, List.cons_append,
        hreads fuel _ (by omega) (.cons (.inl rfl))]
      simp only [Option.bind_eq_bind, Option.bind_some,
        skipSpace_cons (show isSpace ',' = false from rfl),
        (starts_listed hcs'.1).skipSpace_cons, hitems]

/-- A bracket with a value behind it opens an array with members. -/
theorem value?_array (fuel : Nat) {cs : List Char} (h : Starts cs) (rest : List Char) :
    value? (fuel + 1) ('[' :: (cs ++ rest)) =
      (items? fuel (cs ++ rest)).map fun r => (.list r.1, r.2) := by
  obtain ⟨c, cs, rfl, hspace, hbracket, -⟩ := h
  simp only [value?, List.cons_append, skipSpace_cons hspace]
  split
  · next heq => exact absurd (List.cons.inj heq).1 hbracket
  · rfl

/-- An array is read with its members. -/
theorem reads_array {ss : List String} {ws : List Value}
    (h : List.Forall₂ (fun s w => Starts s.toList ∧ Reads s.toList w) ss ws) :
    Reads (array ss).toList (.list ws) := by
  have htext : (array ss).toList = '[' :: (listed (ss.map String.toList) ++ [']']) := by
    rw [array, String.toList_append, String.toList_append, toList_intercalate]
    rfl
  rw [htext]
  intro fuel rest hfuel _
  obtain ⟨fuel, rfl⟩ := Nat.exists_eq_add_one_of_ne_zero (Nat.ne_zero_of_lt hfuel)
  simp only [List.length_cons, List.length_append, List.length_nil] at hfuel
  rw [List.cons_append, List.append_assoc, List.singleton_append]
  cases h with
  | nil => rfl
  | @cons s w ss ws hs hss =>
    have hall : List.Forall₂ (fun cs w => Starts cs ∧ Reads cs w)
        ((s :: ss).map String.toList) (w :: ws) :=
      List.forall₂_map_left_iff.2 (.cons hs hss)
    have hstarts : Starts (listed ((s :: ss).map String.toList)) := starts_listed hs.1
    rw [value?_array fuel hstarts, items?_of_reads hall (List.cons_ne_nil _ _) fuel (by omega) rest]
    rfl

/-! ## Objects -/

/-- A name that no field has yet is added behind the others. -/
theorem put_of_not_mem {fs : Fields} {k : String} (h : k ∉ fs.map (·.1)) (v : Value) :
    fs.put k v = fs ++ [(k, v)] := by
  induction fs with
  | nil => rfl
  | cons f fs ih =>
    rw [List.map_cons, List.mem_cons, not_or] at h
    rw [Fields.put, if_neg (Ne.symm h.1), ih h.2, List.cons_append]

/-- A text is read as a field: its name, a colon and its value. -/
def ReadsField (cs : List Char) (f : String × Value) : Prop :=
  ∃ ds, cs = (string f.1).toList ++ ':' :: ' ' :: ds ∧ Starts ds ∧ Reads ds f.2

/-- A field starts with the quotation mark of its name. -/
theorem ReadsField.starts {cs : List Char} {f : String × Value} (h : ReadsField cs f) :
    Starts cs := by
  obtain ⟨ds, rfl, -⟩ := h
  exact (starts_string f.1).append _

/-- The fields of an object are read one after the other. -/
theorem members?_of_reads {css : List (List Char)} {fs : Fields}
    (h : List.Forall₂ ReadsField css fs) (hne : css ≠ []) (gs : Fields)
    (hnodup : ((gs ++ fs).map (·.1)).Nodup) (fuel : Nat)
    (hfuel : (listed css).length + 1 < fuel) (rest : List Char) :
    members? fuel gs (listed css ++ '\x7d' :: rest) = some (gs ++ fs, rest) := by
  -- The fields read before are part of the induction: a new name is put behind all of them.
  induction h generalizing fuel gs with
  | nil => exact absurd rfl hne
  | @cons cs f css fs hcs hrest ih =>
    obtain ⟨fuel, rfl⟩ := Nat.exists_eq_add_one_of_ne_zero (Nat.ne_zero_of_lt hfuel)
    obtain ⟨ds, rfl, hstarts, hreads⟩ := hcs
    have hput : gs.put f.1 f.2 = gs ++ [f] := by
      refine put_of_not_mem (fun hmem => ?_) f.2
      rw [List.map_append, List.nodup_append] at hnodup
      exact hnodup.2.2 _ hmem _ List.mem_cons_self rfl
    cases hrest with
    | nil =>
      rw [listed_singleton] at hfuel ⊢
      simp only [List.length_append, List.length_cons] at hfuel
      rw [List.append_assoc, toList_string, members?, string?_chars]
      simp only [Option.bind_eq_bind, Option.bind_some, List.cons_append,
        skipSpace_cons (show isSpace ':' = false from rfl), hstarts.skipSpace_cons,
        hreads fuel ('\x7d' :: rest) (by omega) (.cons (.inr (.inr rfl))),
        skipSpace_cons (show isSpace '\x7d' = false from rfl), hput]
    | @cons cs' f' css' fs' hcs' hrest' =>
      rw [listed_cons_cons] at hfuel ⊢
      simp only [List.length_append, List.length_cons] at hfuel
      have hmembers := ih (List.cons_ne_nil _ _) (gs ++ [f]) (by simpa using hnodup) fuel (by omega)
      rw [List.append_assoc, List.append_assoc, toList_string, members?, string?_chars]
      simp only [Option.bind_eq_bind, Option.bind_some, List.cons_append,
        skipSpace_cons (show isSpace ':' = false from rfl), hstarts.skipSpace_cons,
        hreads fuel (',' :: _) (by omega) (.cons (.inl rfl)),
        skipSpace_cons (show isSpace ',' = false from rfl), hput,
        (starts_listed hcs'.starts).skipSpace_cons, hmembers]
      simp

/-- A brace with a name behind it opens an object with fields. -/
theorem value?_object (fuel : Nat) {cs : List Char} (h : Starts cs) (rest : List Char) :
    value? (fuel + 1) ('\x7b' :: (cs ++ rest)) =
      (members? fuel [] (cs ++ rest)).map fun r => (.object r.1, r.2) := by
  obtain ⟨c, cs, rfl, hspace, -, hbrace⟩ := h
  simp only [value?, List.cons_append, skipSpace_cons hspace]
  split
  · next heq => exact absurd (List.cons.inj heq).1 hbrace
  · rfl

/-- An object is read with its fields. -/
theorem reads_object {ss : List String} {fs : Fields}
    (h : List.Forall₂ (fun s f => ReadsField s.toList f) ss fs) (hnodup : (fs.map (·.1)).Nodup) :
    Reads ("\x7b" ++ ", ".intercalate ss ++ "\x7d").toList (.object fs) := by
  have htext : ("\x7b" ++ ", ".intercalate ss ++ "\x7d").toList =
      '\x7b' :: (listed (ss.map String.toList) ++ ['\x7d']) := by
    rw [String.toList_append, String.toList_append, toList_intercalate]
    rfl
  rw [htext]
  intro fuel rest hfuel _
  obtain ⟨fuel, rfl⟩ := Nat.exists_eq_add_one_of_ne_zero (Nat.ne_zero_of_lt hfuel)
  simp only [List.length_cons, List.length_append, List.length_nil] at hfuel
  rw [List.cons_append, List.append_assoc, List.singleton_append]
  cases h with
  | nil => rfl
  | @cons s f ss fs hs hss =>
    have hall : List.Forall₂ ReadsField ((s :: ss).map String.toList) (f :: fs) :=
      List.forall₂_map_left_iff.2 (.cons hs hss)
    have hstarts : Starts (listed ((s :: ss).map String.toList)) := starts_listed hs.starts
    rw [value?_object fuel hstarts,
      members?_of_reads hall (List.cons_ne_nil _ _) [] hnodup fuel (by omega) rest]
    rfl

/-- There is no byte order mark in front of an ASCII text. -/
theorem skipMark_of_isAscii {cs : List Char} (h : IsAscii cs) : skipMark cs = cs := by
  cases cs with
  | nil => rfl
  | cons c cs =>
    rw [skipMark]
    rintro _ ⟨rfl, -⟩
    exact absurd (h _ List.mem_cons_self) (by decide)

end Json

namespace Value

variable {v w : Value} {vs ws : List Value} {fs gs : Fields} {type : String}

/-! ## What the text of a value is read as -/

mutual

/-- A value with the fields of its objects in increasing order of their names. -/
def ordered : Value → Value
  | .list vs => .list (orderedItems vs)
  | .object fs => .object (Fields.sorted (orderedFields fs))
  | v => v

/-- The members of a list with the fields of their objects in order. -/
def orderedItems : List Value → List Value
  | [] => []
  | v :: vs => ordered v :: orderedItems vs

/-- Fields with the fields of the objects in them in order. -/
def orderedFields : Fields → Fields
  | [] => []
  | (k, v) :: fs => (k, ordered v) :: orderedFields fs

end

/-- The members of a list are put in order one by one … -/
theorem orderedItems_eq (vs : List Value) : orderedItems vs = vs.map ordered := by
  induction vs with
  | nil => rfl
  | cons v vs ih => rw [orderedItems, List.map_cons, ih]

/-- … and so are the fields of an object. -/
theorem orderedFields_eq (fs : Fields) :
    orderedFields fs = fs.map fun f => (f.1, f.2.ordered) := by
  induction fs with
  | nil => rfl
  | cons f fs ih => rw [orderedFields, List.map_cons, ih]

/-- What is written for a list is the list of what is written for its members … -/
theorem ordered_erase_list (vs : List Value) :
    (list vs).erase.ordered = list (vs.map fun v => v.erase.ordered) := by
  rw [erase, ordered, orderedItems_eq, eraseItems_eq, List.map_map]
  rfl

/-- … and what is written for an object is that of its fields, by their names. -/
theorem ordered_erase_object (fs : Fields) :
    (object fs).erase.ordered = object (fs.sorted.map fun f => (f.1, f.2.erase.ordered)) := by
  rw [erase, ordered, orderedFields_eq, eraseFields_eq, List.map_map]
  exact congrArg object
    (List.map_mergeSort (f := fun f : String × Value => (f.1, f.2.erase.ordered))
      fun _ _ _ _ => rfl).symm

/-- Whether no name of an object or a record has two values. -/
def HasDistinctNames : Value → Prop
  | .object fs | .record _ fs => (fs.map (·.1)).Nodup
  | _ => True

/-- Whether a value is a double. -/
def IsDouble : Value → Prop
  | .double _ => True
  | _ => False

/-- Members that differ in the order of fields only make lists that do. -/
theorem Reordered.items (h : List.Forall₂ Reordered vs ws) (us : List Value) :
    Reordered (.list (us ++ vs)) (.list (us ++ ws)) := by
  induction h generalizing us with
  | nil => exact .refl _
  | @cons v w vs ws hvw _ ih =>
    have hrest := ih (us ++ [w])
    rw [List.append_assoc, List.append_assoc, List.singleton_append] at hrest
    exact .trans (.item us vs hvw) hrest

/-- Fields with values that differ in the order of fields only make objects that do. -/
theorem Reordered.values
    (h : List.Forall₂ (fun (f g : String × Value) => f.1 = g.1 ∧ f.2.Reordered g.2) fs gs)
    (es : Fields) : Reordered (.object (es ++ fs)) (.object (es ++ gs)) := by
  induction h generalizing es with
  | nil => exact .refl _
  | @cons f g fs gs hfg _ ih =>
    obtain ⟨k, v⟩ := f
    obtain ⟨k, w⟩ := g
    obtain ⟨rfl, hvw⟩ := hfg
    have hrest := ih (es ++ [(k, w)])
    rw [List.append_assoc, List.append_assoc, List.singleton_append] at hrest
    exact .trans (.field es k fs hvw) hrest

/-- What the text of a value is read as differs from what the value is written as in the order of
fields only. -/
theorem reordered_ordered (h : v.All HasDistinctNames) : v.erase.ordered.Reordered v.erase := by
  have hlist {vs : List Value} (ih : ∀ v ∈ vs, v.erase.ordered.Reordered v.erase) :
      (list vs).erase.ordered.Reordered (list vs).erase := by
    rw [ordered_erase_list, erase, eraseItems_eq]
    exact .items (List.forall₂_map_left_iff.2
      (List.forall₂_map_right_iff.2 (List.forall₂_same.2 ih))) []
  have hobject {fs : Fields} (hnodup : (fs.map (·.1)).Nodup)
      (ih : ∀ k v, (k, v) ∈ fs → v.erase.ordered.Reordered v.erase) :
      (object fs).erase.ordered.Reordered (object fs).erase := by
    have hperm : fs.sorted.Perm fs := List.mergeSort_perm fs _
    have hvalues : List.Forall₂ (fun (f g : String × Value) => f.1 = g.1 ∧ f.2.Reordered g.2)
        (fs.map fun f => (f.1, f.2.erase.ordered)) (fs.map fun f => (f.1, f.2.erase)) :=
      List.forall₂_map_left_iff.2 (List.forall₂_map_right_iff.2
        (List.forall₂_same.2 fun f hf => ⟨rfl, ih f.1 f.2 hf⟩))
    rw [ordered_erase_object, erase, eraseFields_eq]
    -- First the fields of the object itself change their places, then those inside its values.
    refine .trans (.fields ?_ (hperm.map _)) (.values hvalues [])
    rw [List.map_map]
    exact (hperm.map (·.1)).nodup_iff.2 hnodup
  induction v using Value.induction with
  | scalar v hv => cases v <;> first | exact .refl _ | cases hv
  | list vs ih => exact hlist fun v hv => ih v hv ((all_list.1 h).2 v hv)
  | set vs ih => exact hlist fun v hv => ih v hv ((all_set.1 h).2 v hv)
  | object fs ih =>
    obtain ⟨hnodup, hall⟩ := all_object.1 h
    exact hobject hnodup fun k v hf => ih k v hf (hall k v hf)
  | record type fs ih =>
    obtain ⟨hnodup, hall⟩ := all_record.1 h
    exact hobject hnodup fun k v hf => ih k v hf (hall k v hf)

/-- The text of a value is read as what it is written as, with the fields in order. -/
theorem reads_json (hnames : v.All HasDistinctNames) (hdouble : v.All fun u => ¬ u.IsDouble)
    {s : String} (h : v.json = .ok s) :
    Json.Starts s.toList ∧ Json.Reads s.toList v.erase.ordered := by
  have hlist {vs : List Value} {s : String} (h : (list vs).json = .ok s)
      (ih : ∀ v ∈ vs, ∀ s : String, v.json = .ok s →
        Json.Starts s.toList ∧ Json.Reads s.toList v.erase.ordered) :
      Json.Starts s.toList ∧ Json.Reads s.toList (list vs).erase.ordered := by
    obtain ⟨ss, hss, rfl⟩ := exists_of_json_list h
    refine ⟨?_, ?_⟩
    · rw [Json.array, String.toList_append, String.toList_append]
      exact ⟨'[', _, rfl, by decide, by decide, by decide⟩
    · rw [ordered_erase_list]
      exact Json.reads_array (List.forall₂_map_right_iff.2 (forall₂_imp_of_mem hss ih).flip)
  have hobject {fs : Fields} {s : String} (h : (object fs).json = .ok s)
      (hnodup : (fs.map (·.1)).Nodup)
      (ih : ∀ k v, (k, v) ∈ fs → ∀ s : String, v.json = .ok s →
        Json.Starts s.toList ∧ Json.Reads s.toList v.erase.ordered) :
      Json.Starts s.toList ∧ Json.Reads s.toList (object fs).erase.ordered := by
    have hperm : fs.sorted.Perm fs := List.mergeSort_perm fs _
    obtain ⟨ss, hss, rfl⟩ := exists_of_json_object h
    refine ⟨?_, ?_⟩
    · rw [String.toList_append, String.toList_append]
      exact ⟨'\x7b', _, rfl, by decide, by decide, by decide⟩
    · rw [ordered_erase_object]
      refine Json.reads_object (List.forall₂_map_right_iff.2
        (forall₂_imp_of_mem hss fun f hf m hm => ?_).flip) ?_
      · obtain ⟨t, ht, rfl⟩ := hm
        obtain ⟨hstarts, hreads⟩ := ih f.1 f.2 (hperm.mem_iff.1 hf) t ht
        refine ⟨t.toList, ?_, hstarts, hreads⟩
        rw [String.toList_append, String.toList_append, List.append_assoc]
        rfl
      · rw [List.map_map]
        exact (hperm.map (·.1)).nodup_iff.2 hnodup
  induction v using Value.induction generalizing s with
  | scalar v hv =>
    cases v with
    | null =>
      cases h
      exact ⟨⟨_, _, rfl, by decide, by decide, by decide⟩, Json.reads_null⟩
    | bool b =>
      rw [json] at h
      refine Except.ok.inj h ▸ ⟨?_, Json.reads_bool b⟩
      cases b <;> exact ⟨_, _, rfl, by decide, by decide, by decide⟩
    | int i | accountType t =>
      rw [json] at h
      rw [Json.int_eq_ok h]
      exact ⟨Json.starts_int _, Json.reads_int _⟩
    | double d => exact absurd trivial hdouble.whole
    | bytes | unset => cases h
    | list | set | object | record => cases hv
    | text | decimal | date | state | transferType =>
      rw [json] at h
      exact Except.ok.inj h ▸ ⟨Json.starts_string _, Json.reads_string _⟩
  | list vs ih =>
    exact hlist h fun v hv s => ih v hv ((all_list.1 hnames).2 v hv) ((all_list.1 hdouble).2 v hv)
  | set vs ih =>
    exact hlist (json_set vs ▸ h) fun v hv s =>
      ih v hv ((all_set.1 hnames).2 v hv) ((all_set.1 hdouble).2 v hv)
  | object fs ih =>
    obtain ⟨hnodup, hall⟩ := all_object.1 hnames
    exact hobject h hnodup fun k v hf s => ih k v hf (hall k v hf) ((all_object.1 hdouble).2 k v hf)
  | record type fs ih =>
    obtain ⟨hnodup, hall⟩ := all_record.1 hnames
    exact hobject (json_record type fs ▸ h) hnodup fun k v hf s =>
      ih k v hf (hall k v hf) ((all_record.1 hdouble).2 k v hf)

/-- The text of a value stands for what the value is written as, with the fields in order. -/
theorem read?_json (hnames : v.All HasDistinctNames) (hdouble : v.All fun u => ¬ u.IsDouble)
    {s : String} (h : v.json = .ok s) : Json.read? s = some v.erase.ordered := by
  obtain ⟨hstarts, hreads⟩ := reads_json hnames hdouble h
  have hskip := hstarts.skipSpace []
  have hvalue := hreads (2 * s.toList.length + 2) [] (by omega) .nil
  rw [List.append_nil] at hskip hvalue
  rw [Json.read?, Json.skipMark_of_isAscii (isAscii_json h)]
  simp only [hskip, hvalue]
  rfl

end Value

end Remit
