import Mathlib
import Remit.Execution.Address

/-!
# Addresses below a base address

A base address is a scheme, a host, maybe the number of a service, and a path
(`Address.Parts.IsBase`). Its usual form has the scheme and the host in lower case and leaves out a
number that the scheme implies (`Address.Parts.usual`). The address of a path below a base address
is the usual form with the path after it (`Address.Parts.IsBase.below_text`).
-/

namespace Remit.Address

/-! ## Splitting -/

section
variable {c : Char} {word before after : List Char}

/-- A text is split at a word if the first letter of the word does not stand before it. -/
theorem splitAt?_append (h : c ∉ before) :
    splitAt? (c :: word) (before ++ c :: (word ++ after)) = some (before, after) := by
  induction before with
  | nil => simp [splitAt?]
  | cons b before ih =>
    simp only [List.mem_cons, not_or] at h
    have hstart : (c :: word).isPrefixOf (b :: (before ++ c :: (word ++ after))) = false := by
      rw [List.isPrefixOf, beq_false_of_ne h.1, Bool.false_and]
    rw [List.cons_append, splitAt?, hstart, ih h.2]
    rfl

/-- A text without the first letter of a word is not split at it. -/
theorem splitAt?_eq_none {cs : List Char} (h : c ∉ cs) : splitAt? (c :: word) cs = none := by
  induction cs with
  | nil => rfl
  | cons b cs ih =>
    simp only [List.mem_cons, not_or] at h
    rw [splitAt?, List.isPrefixOf, beq_false_of_ne h.1, ih h.2]
    rfl

end

/-! ## Characters -/

/-- Whether a character may stand in the name of a host: a letter, a digit, or one of some marks. -/
def isNameChar (c : Char) : Bool := c.isAlphanum || "-._~!$&'()*+,;=".toList.contains c

/-- Whether a character may stand in a path. -/
def isPathChar (c : Char) : Bool := isNameChar c || [':', '@', '/'].contains c

/-- Whether a character is a digit of base sixteen. -/
def isHexDigit (c : Char) : Bool := c.isDigit || "abcdefABCDEF".toList.contains c

/-- Whether a text holds characters of a kind only, and bytes that are written as a percent sign and
two digits of base sixteen. -/
def isEscaped (allowed : Char → Bool) : List Char → Bool
  | [] => true
  | '%' :: a :: b :: cs => isHexDigit a && isHexDigit b && isEscaped allowed cs
  | c :: cs => allowed c && isEscaped allowed cs

/-- What holds of the characters of a kind, of the percent sign and of digits holds of every
character of an escaped text. -/
theorem forall_of_isEscaped {allowed : Char → Bool} {p : Char → Prop}
    (hallowed : ∀ c, allowed c = true → p c) (hpercent : p '%')
    (hdigit : ∀ c, isHexDigit c = true → p c) {cs : List Char} (h : isEscaped allowed cs = true) :
    ∀ c ∈ cs, p c := by
  fun_induction isEscaped allowed cs with
  | case1 => exact nofun
  | case2 a b cs ih =>
    simp only [Bool.and_eq_true] at h
    simp only [List.forall_mem_cons]
    exact ⟨hpercent, hdigit a h.1.1, hdigit b h.1.2, ih h.2⟩
  | case3 c cs _ ih =>
    simp only [Bool.and_eq_true] at h
    exact List.forall_mem_cons.2 ⟨hallowed c h.1, ih h.2⟩

/-- Letters and digits by their code points. -/
theorem toNat_of_isAlphanum {c : Char} (h : c.isAlphanum = true) :
    0x30 ≤ c.toNat ∧ c.toNat ≤ 0x7A ∧ c.toNat ≠ 0x3A := by
  simp only [Char.isAlphanum, Char.isAlpha, Char.isUpper, Char.isLower, Char.isDigit,
    Bool.or_eq_true, Bool.and_eq_true, decide_eq_true_eq, UInt32.le_iff_toNat_le, ge_iff_le] at h
  change ((65 ≤ c.toNat ∧ c.toNat ≤ 90) ∨ (97 ≤ c.toNat ∧ c.toNat ≤ 122)) ∨
    (48 ≤ c.toNat ∧ c.toNat ≤ 57) at h
  omega

/-- A digit of base sixteen is a letter or a digit. -/
theorem isAlphanum_of_isHexDigit {c : Char} (h : isHexDigit c = true) : c.isAlphanum = true := by
  rcases Bool.or_eq_true_iff.1 h with hd | hl
  · rw [Char.isAlphanum, hd, Bool.or_true]
  · have hletters : ∀ l ∈ "abcdefABCDEF".toList, l.isAlphanum = true :=
      List.all_eq_true.1 (by decide)
    exact hletters c (List.contains_iff_mem.1 hl)

/-- What may stand in a path is written as it is. -/
theorem pathChar_of_isPathChar {c : Char} (h : isPathChar c = true) : pathChar c = [c] := by
  have hbarred : ∀ b ∈ ['"', '<', '>', '`', '\x7b', '\x7d'], ¬ isPathChar b = true :=
    List.any_eq_false.1 (by decide)
  have hnot : ['"', '<', '>', '`', '\x7b', '\x7d'].contains c = false :=
    Bool.eq_false_iff.2 fun hm => hbarred c (List.contains_iff_mem.1 hm) h
  have hvisible : 0x20 < c.toNat ∧ c.toNat < 0x7F := by
    simp only [isPathChar, isNameChar, Bool.or_eq_true, List.contains_iff_mem] at h
    rcases h with (ha | hm) | hm
    · have := toNat_of_isAlphanum ha
      omega
    · have hmarks : ∀ m ∈ "-._~!$&'()*+,;=".toList,
          (decide (0x20 < m.toNat) && decide (m.toNat < 0x7F)) = true :=
        List.all_eq_true.1 (by decide)
      simpa using hmarks c hm
    · have hmarks : ∀ m ∈ [':', '@', '/'],
          (decide (0x20 < m.toNat) && decide (m.toNat < 0x7F)) = true :=
        List.all_eq_true.1 (by decide)
      simpa using hmarks c hm
  have hcond : (c.toNat ≤ 0x20 || 0x7F ≤ c.toNat ||
      ['"', '<', '>', '`', '\x7b', '\x7d'].contains c) = false := by
    rw [hnot, Bool.or_false, Bool.or_eq_false_iff, decide_eq_false_iff_not, decide_eq_false_iff_not]
    omega
  simp only [pathChar, hcond, Bool.false_eq_true, if_false]

/-- The percent sign is written as it is. -/
theorem pathChar_percent : pathChar '%' = ['%'] := by decide

/-- A path whose characters are legal is written as it is. -/
theorem flatMap_pathChar {path : List Char} (h : isEscaped isPathChar path = true) :
    path.flatMap pathChar = path := by
  have hchars : ∀ c ∈ path, pathChar c = [c] :=
    forall_of_isEscaped (p := fun c => pathChar c = [c]) (fun _ => pathChar_of_isPathChar)
      pathChar_percent
      (fun c hc => pathChar_of_isPathChar (by
        rw [isPathChar, isNameChar, isAlphanum_of_isHexDigit hc]; rfl)) h
  clear h
  induction path with
  | nil => rfl
  | cons c path ih =>
    rw [List.flatMap_cons, hchars c List.mem_cons_self,
      ih fun d hd => hchars d (List.mem_cons_of_mem _ hd)]
    rfl

/-- Only a colon is a colon in lower case. -/
theorem eq_colon_of_toLower {c : Char} (h : c.toLower = ':') : c = ':' := by
  unfold Char.toLower at h
  split at h
  · next hu =>
    have hval : (c.val + ('a'.val - 'A'.val)).toNat = 58 :=
      congrArg (fun d : Char => d.val.toNat) h
    have hlower : 65 ≤ c.val.toNat := UInt32.le_iff_toNat_le.1 hu.1
    have hupper : c.val.toNat ≤ 90 := UInt32.le_iff_toNat_le.1 hu.2
    have hshift : ('a'.val - 'A'.val).toNat = 32 := by decide
    rw [UInt32.toNat_add, hshift] at hval
    omega
  · exact h

/-- A text without colons has none in lower case. -/
theorem colon_not_mem_map_toLower {cs : List Char} (h : ':' ∉ cs) : ':' ∉ cs.map Char.toLower := by
  intro hm
  obtain ⟨c, hc, hlower⟩ := List.mem_map.1 hm
  exact h (eq_colon_of_toLower hlower ▸ hc)

/-! ## Parts of an address -/

/-- The parts of an address: what stands before `://`, the host, the number of the service, and the
path. -/
structure Parts where
  scheme : List Char
  host : List Char
  number : Option Nat := none
  path : List Char := []
  deriving DecidableEq, Repr

namespace Parts

/-- The number of a service as it stands after a host. -/
def numberText : Option Nat → List Char
  | none => []
  | some n => ':' :: Nat.toDigits 10 n

/-- The text of an address. -/
def text (p : Parts) : List Char :=
  p.scheme ++ [':', '/', '/'] ++ p.host ++ numberText p.number ++ p.path

/-- The usual form of an address: the scheme and the host in lower case, and no number that the
scheme implies. -/
def usual (p : Parts) : Parts where
  scheme := p.scheme.map Char.toLower
  host := p.host.map Char.toLower
  number := p.number.filter fun n =>
    impliedNumber (p.scheme.map Char.toLower) != some (Nat.toDigits 10 n)
  path := p.path

/-- A host is named, or numbered within brackets. -/
def IsHost (host : List Char) : Prop :=
  (host ≠ [] ∧ isEscaped isNameChar host = true) ∨
    ∃ inner, host = '[' :: inner ++ [']'] ∧
      inner.all (fun c => isHexDigit c || c == ':' || c == '.') = true

/-- A base address is well formed: its scheme is one of the web, its host is named or numbered, the
number of its service has two bytes, and its path, if it has one, starts with a slash and has
neither a query nor segments of dots, which stand for other segments. -/
structure IsBase (p : Parts) : Prop where
  scheme : p.scheme.map Char.toLower = "http".toList ∨ p.scheme.map Char.toLower = "https".toList
  host : IsHost p.host
  number : ∀ n, p.number = some n → n < 65536
  path : p.path = [] ∨ p.path.head? = some '/'
  legal : isEscaped isPathChar p.path = true
  noDots : ∀ segment ∈ p.path.splitOn '/', segment ≠ ['.'] ∧ segment ≠ ['.', '.']

/-! ## Hosts -/

/-- A digit is the same in lower case. -/
theorem toLower_of_isDigit {c : Char} (h : c.isDigit = true) : c.toLower = c := by
  simp only [Char.isDigit, Bool.and_eq_true, decide_eq_true_eq] at h
  unfold Char.toLower
  split
  · next hu =>
    have hdigit : c.val.toNat ≤ 57 := UInt32.le_iff_toNat_le.1 h.2
    have hupper : 65 ≤ c.val.toNat := UInt32.le_iff_toNat_le.1 hu.1
    omega
  · rfl

theorem isDigit_of_mem {n : Nat} {c : Char} (h : c ∈ Nat.toDigits 10 n) : c.isDigit = true :=
  Nat.isDigit_of_mem_toDigits (by decide) (by decide) h

/-- There is no slash in the number of a port. -/
theorem slash_not_mem_numberText (number : Option Nat) : '/' ∉ numberText number := by
  cases number with
  | none => exact List.not_mem_nil
  | some n =>
    rintro (_ | ⟨_, hm⟩)
    exact absurd (isDigit_of_mem hm) (by decide)

/-- A name holds neither slashes nor colons. -/
theorem not_mem_of_isName {host : List Char} (h : isEscaped isNameChar host = true) :
    '/' ∉ host ∧ ':' ∉ host := by
  have hall : ∀ c ∈ host, c ≠ '/' ∧ c ≠ ':' := by
    refine forall_of_isEscaped (fun c hc => ?_) (by decide) (fun c hc => ?_) h
    · constructor <;> rintro rfl <;> revert hc <;> decide
    · constructor <;> rintro rfl <;> revert hc <;> decide
  exact ⟨fun hm => (hall _ hm).1 rfl, fun hm => (hall _ hm).2 rfl⟩

/-- There is no slash in the name of a host. -/
theorem IsHost.slash_not_mem {host : List Char} (h : IsHost host) : '/' ∉ host := by
  rcases h with ⟨-, hname⟩ | ⟨inner, rfl, hinner⟩
  · exact (not_mem_of_isName hname).1
  · intro hm
    simp only [List.cons_append, List.mem_cons, List.mem_append, List.not_mem_nil, or_false] at hm
    rcases hm with hm | hm | hm
    · exact absurd hm (by decide)
    · exact absurd (List.all_eq_true.1 hinner _ hm) (by decide)
    · exact absurd hm (by decide)

/-- A host without a number stands for itself in lower case. -/
theorem hostText_host {host : List Char} (h : IsHost host) (scheme : List Char) :
    hostText scheme host = host.map Char.toLower := by
  rcases h with ⟨-, hname⟩ | ⟨inner, rfl, -⟩
  · have hcolon : ':' ∉ (host.map Char.toLower).reverse := fun hm =>
      colon_not_mem_map_toLower (not_mem_of_isName hname).2 (List.mem_reverse.1 hm)
    simp only [hostText, splitAt?_eq_none hcolon]
  · -- what stands after the last colon ends with a bracket, so it is no number
    have hreverse : (('[' :: inner ++ [']']).map Char.toLower).reverse =
        ']' :: ((inner.map Char.toLower).reverse ++ ['[']) := by
      simp
    have hsplit : splitAt? [':'] (']' :: ((inner.map Char.toLower).reverse ++ ['['])) =
        (splitAt? [':'] ((inner.map Char.toLower).reverse ++ ['['])).map
          fun r => (']' :: r.1, r.2) := rfl
    simp only [hostText, hreverse, hsplit]
    cases splitAt? [':'] ((inner.map Char.toLower).reverse ++ ['[']) with
    | none => rfl
    | some r => rfl

/-- A number after a host is kept unless the scheme implies it. -/
theorem hostText_number (scheme host : List Char) (n : Nat) :
    hostText scheme (host ++ numberText (some n)) = host.map Char.toLower ++
      numberText ((some n).filter fun n => impliedNumber scheme != some (Nat.toDigits 10 n)) := by
  have hlower : (Nat.toDigits 10 n).map Char.toLower = Nat.toDigits 10 n :=
    (List.map_congr_left fun c hc => toLower_of_isDigit (isDigit_of_mem hc)).trans (List.map_id' _)
  have hcolon : ':' ∉ (Nat.toDigits 10 n).reverse := fun hm =>
    absurd (isDigit_of_mem (List.mem_reverse.1 hm)) (by decide)
  have hmap : (host ++ numberText (some n)).map Char.toLower =
      host.map Char.toLower ++ ':' :: Nat.toDigits 10 n := by
    rw [List.map_append, numberText, List.map_cons, hlower]
    rfl
  have hreverse : (host.map Char.toLower ++ ':' :: Nat.toDigits 10 n).reverse =
      (Nat.toDigits 10 n).reverse ++ ':' :: ([] ++ (host.map Char.toLower).reverse) := by
    simp
  have hdigits : (Nat.toDigits 10 n).reverse.all Char.isDigit = true :=
    List.all_eq_true.2 fun c hc => isDigit_of_mem (List.mem_reverse.1 hc)
  have hne : (Nat.toDigits 10 n).reverse.isEmpty = false := by
    rw [List.isEmpty_reverse]
    exact List.isEmpty_eq_false_iff.2 Nat.toDigits_ne_nil
  simp only [hostText, hmap, hreverse, splitAt?_append hcolon, hdigits, hne, List.reverse_reverse,
    Bool.false_or, Bool.true_and]
  cases himplied : impliedNumber scheme == some (Nat.toDigits 10 n) with
  | true =>
    rw [Option.filter_some, bne, himplied]
    simp [numberText]
  | false =>
    rw [Option.filter_some, bne, himplied]
    simp [numberText]

/-- The host and the number of an address in their usual form. -/
theorem hostText_eq {p : Parts} (h : IsHost p.host) :
    hostText (p.scheme.map Char.toLower) (p.host ++ numberText p.number) =
      p.usual.host ++ numberText p.usual.number := by
  obtain ⟨scheme, host, number, path⟩ := p
  cases number with
  | none =>
    show hostText _ (host ++ []) = host.map Char.toLower ++ []
    rw [List.append_nil, List.append_nil, hostText_host h]
  | some n => exact hostText_number _ _ n

/-! ## What stands below a base address -/

/-- The usual form of an address with a path that starts with a slash. -/
theorem normal_text {p : Parts} (hscheme : ':' ∉ p.scheme) (hhost : IsHost p.host)
    {path : List Char} (hpath : p.path = '/' :: path) :
    normal p.text = p.scheme.map Char.toLower ++ [':', '/', '/'] ++
      (p.usual.host ++ numberText p.usual.number) ++ p.path.flatMap pathChar := by
  have hsplit : splitAt? [':', '/', '/'] p.text =
      some (p.scheme, p.host ++ numberText p.number ++ p.path) := by
    have htext : p.text =
        p.scheme ++ ':' :: (['/', '/'] ++ (p.host ++ numberText p.number ++ p.path)) := by
      simp [text]
    rw [htext, splitAt?_append hscheme]
  have hauthority : ∀ c ∈ p.host ++ numberText p.number, (c != '/') = true := by
    intro c hc
    rw [bne_iff_ne]
    rintro rfl
    rcases List.mem_append.1 hc with hm | hm
    · exact hhost.slash_not_mem hm
    · exact slash_not_mem_numberText _ hm
  have htake : (p.host ++ numberText p.number ++ p.path).takeWhile (· != '/') =
      p.host ++ numberText p.number := by
    rw [List.takeWhile_append_of_pos hauthority, hpath]
    simp
  have hdrop : (p.host ++ numberText p.number ++ p.path).dropWhile (· != '/') = p.path := by
    rw [List.dropWhile_append_of_pos hauthority, hpath]
    simp
  simp only [normal, hsplit, htake, hdrop, hostText_eq hhost]

/-- The address of a path below a base address is the usual form of the base address with the path
after a slash. -/
theorem IsBase.below_text {p : Parts} (hp : p.IsBase) (hend : p.text.getLast? ≠ some '/')
    (path : String) (hpath : isEscaped isPathChar path.toList = true) :
    below (String.ofList p.text) path = String.ofList p.usual.text ++ "/" ++ path := by
  have hscheme : ':' ∉ p.scheme := by
    intro hm
    have hlower : ':' ∈ p.scheme.map Char.toLower := List.mem_map.2 ⟨':', hm, by decide⟩
    rcases hp.scheme with h | h <;> rw [h] at hlower <;> exact absurd hlower (by decide)
  let q : Parts := { p with path := p.path ++ '/' :: path.toList }
  have htext : p.text ++ ['/'] ++ path.toList = q.text := by
    simp [text, q]
  have hq : ∃ rest, q.path = '/' :: rest := by
    rcases hp.path with h | h
    · exact ⟨path.toList, by simp [q, h]⟩
    · obtain ⟨rest, hrest⟩ := List.head?_eq_some_iff.1 h
      exact ⟨rest ++ '/' :: path.toList, by simp [q, hrest]⟩
  obtain ⟨rest, hrest⟩ := hq
  have hflat : q.path.flatMap pathChar = p.path ++ '/' :: path.toList := by
    have hslash : pathChar '/' = ['/'] := by decide
    rw [List.flatMap_append, flatMap_pathChar hp.legal, List.flatMap_cons, hslash,
      flatMap_pathChar hpath]
    rfl
  have hnormal : normal q.text = p.usual.text ++ '/' :: path.toList := by
    rw [normal_text (p := q) hscheme hp.host hrest, hflat]
    simp [text, usual, q]
  rw [below, String.toList_ofList, if_neg hend, htext, hnormal]
  apply String.toList_injective
  simp

example : below "HTTP://Core:80/v1" "accounttransfers" = "http://core/v1/accounttransfers" := by
  decide +kernel

end Parts

end Remit.Address
