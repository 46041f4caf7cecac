import DocTag.Text.Basic
import Mathlib.Data.List.Basic
import Mathlib.Data.List.TakeWhile

namespace DocTag.Text

instance (priority := 2000) decidableForallMem (p : Char → Prop) [DecidablePred p] (t : Text) :
    Decidable (∀ c ∈ t, p c) := List.decidableBAll p t

def Blank (t : Text) : Prop := ∀ c ∈ t, isBlank c = true

instance : DecidablePred Blank := fun t => inferInstanceAs (Decidable (∀ c ∈ t, isBlank c = true))

structure Tight (t : Text) : Prop where
  head : ∀ c ∈ t.head?, isBlank c = false
  last : ∀ c ∈ t.getLast?, isBlank c = false

@[simp] theorem blank_nil : Blank [] := by simp [Blank]

theorem blank_cons {c : Char} {t : Text} : Blank (c :: t) ↔ isBlank c = true ∧ Blank t := by
  simp [Blank]

theorem Blank.reverse {t : Text} (h : Blank t) : Blank t.reverse := by simpa [Blank] using h

theorem Blank.append {t u : Text} (ht : Blank t) (hu : Blank u) : Blank (t ++ u) :=
  List.forall_mem_append.2 ⟨ht, hu⟩

theorem Blank.not_mem {t : Text} (h : Blank t) {c : Char} (hc : isBlank c = false) : c ∉ t := by
  intro hmem
  rw [h c hmem] at hc
  cases hc

theorem bne_of_not_mem {t : Text} {d : Char} (h : d ∉ t) : ∀ c ∈ t, (c != d) = true := by
  intro c hc
  rw [bne_iff_ne]
  rintro rfl
  exact h hc

theorem bne_of_isBlank {d : Char} (hd : isBlank d = false) :
    ∀ c, isBlank c = true → (c != d) = true := by
  intro c hc
  rw [bne_iff_ne]
  rintro rfl
  rw [hd] at hc
  cases hc

theorem tight_of_forall {t : Text} (h : ∀ c ∈ t, isBlank c = false) : Tight t where
  head c hc := h c (List.mem_of_head? hc)
  last c hc := h c (List.mem_of_getLast? hc)

theorem dropWhile_eq_self {p : Char → Bool} {t : Text} (h : ∀ c ∈ t.head?, p c = false) :
    t.dropWhile p = t := by
  cases t with
  | nil => rfl
  | cons c t => simp [h c rfl]

theorem takeWhile_eq_nil {p : Char → Bool} {t : Text} (h : ∀ c ∈ t.head?, p c = false) :
    t.takeWhile p = [] := by
  cases t with
  | nil => rfl
  | cons c t => simp [h c rfl]

theorem head?_dropWhile {p : Char → Bool} {t : Text} :
    ∀ c ∈ (t.dropWhile p).head?, p c = false := by
  intro c hc
  have h := List.head?_dropWhile_not p t
  rw [Option.mem_def] at hc
  rw [hc] at h
  exact h

theorem dropWhile_append_run {p : Char → Bool} {u t : Text} (hu : ∀ c ∈ u, p c = true)
    (ht : ∀ c ∈ t.head?, p c = false) : (u ++ t).dropWhile p = t := by
  rw [List.dropWhile_append_of_pos hu, dropWhile_eq_self ht]

theorem takeWhile_append_run {p : Char → Bool} {u t : Text} (hu : ∀ c ∈ u, p c = true)
    (ht : ∀ c ∈ t.head?, p c = false) : (u ++ t).takeWhile p = u := by
  rw [List.takeWhile_append_of_pos hu, takeWhile_eq_nil ht, List.append_nil]

theorem blank_takeWhile (t : Text) : Blank (t.takeWhile isBlank) :=
  fun _ hc => List.mem_takeWhile_imp hc

theorem trimStart_eq_self {t : Text} (h : ∀ c ∈ t.head?, isBlank c = false) : t.trimStart = t :=
  dropWhile_eq_self h

theorem trimStart_append {a t : Text} (ha : Blank a) (ht : ∀ c ∈ t.head?, isBlank c = false) :
    trimStart (a ++ t) = t := dropWhile_append_run ha ht

theorem head?_trimStart (t : Text) : ∀ c ∈ t.trimStart.head?, isBlank c = false := head?_dropWhile

theorem trimEnd_append {t b : Text} (hb : Blank b) (ht : ∀ c ∈ t.getLast?, isBlank c = false) :
    trimEnd (t ++ b) = t := by
  rw [trimEnd, List.reverse_append, dropWhile_append_run hb.reverse (by simpa using ht),
    List.reverse_reverse]

theorem trimEnd_eq_self {t : Text} (h : ∀ c ∈ t.getLast?, isBlank c = false) : t.trimEnd = t := by
  simpa using trimEnd_append blank_nil h

theorem exists_trimEnd (t : Text) : ∃ b, Blank b ∧ t = t.trimEnd ++ b := by
  refine ⟨(t.reverse.takeWhile isBlank).reverse, (blank_takeWhile _).reverse, ?_⟩
  rw [trimEnd, ← List.reverse_append, List.takeWhile_append_dropWhile, List.reverse_reverse]

theorem getLast?_trimEnd (t : Text) : ∀ c ∈ t.trimEnd.getLast?, isBlank c = false := by
  simpa [trimEnd] using head?_dropWhile (p := isBlank) (t := t.reverse)

theorem trim_append {a t b : Text} (ha : Blank a) (ht : Tight t) (hb : Blank b) :
    trim (a ++ t ++ b) = t := by
  cases t with
  | nil =>
    have hab : Blank (a ++ b) := by
      intro c hc
      rcases List.mem_append.1 hc with h | h
      · exact ha c h
      · exact hb c h
    have h := trimStart_append hab (t := []) (by simp)
    rw [List.append_nil] at h ⊢
    rw [trim, h]
    rfl
  | cons c t =>
    rw [trim, List.append_assoc, trimStart_append ha (by simpa using ht.head),
      trimEnd_append hb ht.last]

theorem trim_append_of_blank {a : Text} (ha : a.Blank) (t : Text) : (a ++ t).trim = t.trim := by
  rw [trim, trim, trimStart, List.dropWhile_append_of_pos ha, trimStart]

theorem Tight.trim_eq {t : Text} (h : Tight t) : t.trim = t := by
  simpa using trim_append blank_nil h blank_nil

theorem exists_trim (t : Text) : ∃ a b, Blank a ∧ Blank b ∧ t = a ++ t.trim ++ b := by
  obtain ⟨b, hb, h⟩ := exists_trimEnd t.trimStart
  refine ⟨t.takeWhile isBlank, b, blank_takeWhile t, hb, ?_⟩
  rw [List.append_assoc, trim, ← h, trimStart, List.takeWhile_append_dropWhile]

theorem tight_trim (t : Text) : Tight t.trim where
  head := by
    obtain ⟨b, -, h⟩ := exists_trimEnd t.trimStart
    have hs := head?_trimStart t
    intro c hc
    apply hs
    rw [h]
    rw [trim] at hc
    cases e : trimEnd t.trimStart with
    | nil => rw [e] at hc; cases hc
    | cons d u => rw [e] at hc; exact hc
  last := getLast?_trimEnd _

theorem trim_append_blank (t : Text) {b : Text} (hb : b.Blank) : (t ++ b).trim = t.trim := by
  obtain ⟨a, b', ha, hb', e⟩ := exists_trim t
  calc
    (t ++ b).trim = (a ++ t.trim ++ (b' ++ b)).trim := by rw [← List.append_assoc, ← e]
    _ = t.trim := trim_append ha (tight_trim t) (hb'.append hb)

theorem mem_of_mem_trim {c : Char} {t : Text} (h : c ∈ t.trim) : c ∈ t := by
  obtain ⟨a, b, -, -, e⟩ := exists_trim t
  rw [e]
  simp [h]

theorem blank_of_trim_eq_nil {t : Text} (h : t.trim = []) : Blank t := by
  obtain ⟨a, b, ha, hb, e⟩ := exists_trim t
  rw [h, List.append_nil] at e
  intro c hc
  rw [e] at hc
  exact (List.mem_append.1 hc).elim (ha c) (hb c)

theorem trim_of_blank {t : Text} (h : Blank t) : t.trim = [] := by
  simpa using trim_append h (tight_of_forall (t := []) (by simp)) blank_nil

theorem trim_eq_nil_iff {t : Text} : t.trim = [] ↔ t.Blank := ⟨blank_of_trim_eq_nil, trim_of_blank⟩

theorem Blank.head?_append {gap : Text} (h : Blank gap) (hne : gap ≠ []) (rest : Text) :
    ∀ c ∈ (gap ++ rest).head?, isBlank c = true := by
  intro c hc
  rw [List.head?_append_of_ne_nil _ hne] at hc
  exact h c (List.mem_of_head? hc)

theorem eq_of_append_eq {u u' v v' : Text} (hu : ∀ c ∈ u, isBlank c = false)
    (hu' : ∀ c ∈ u', isBlank c = false) (hv : ∀ c ∈ v.head?, isBlank c = true)
    (hv' : ∀ c ∈ v'.head?, isBlank c = true) (h : u ++ v = u' ++ v') : u = u' := by
  have e := congrArg (List.takeWhile (!isBlank ·)) h
  rwa [takeWhile_append_run (by simpa using hu) (by simpa using hv),
    takeWhile_append_run (by simpa using hu') (by simpa using hv')] at e

theorem intercalate_append {sep : Text} {ps qs : List Text} (hp : ps ≠ []) (hq : qs ≠ []) :
    sep.intercalate (ps ++ qs) = sep.intercalate ps ++ sep ++ sep.intercalate qs := by
  induction ps with
  | nil => contradiction
  | cons p ps ih =>
    cases ps with
    | nil => simp [List.intercalate_cons_of_ne_nil hq]
    | cons q ps =>
      rw [List.cons_append, List.intercalate_cons_of_ne_nil (by simp), ih (by simp),
        List.intercalate_cons_cons]
      simp

theorem prefix_intercalate_cons (sep p : Text) (ps : List Text) :
    p <+: sep.intercalate (p :: ps) := by
  cases ps with
  | nil => simp
  | cons q ps => simp [List.append_assoc]

theorem infix_intercalate_of_mem {sep p : Text} {ps : List Text} (h : p ∈ ps) :
    p <:+: sep.intercalate ps := by
  obtain ⟨front, back, rfl⟩ := List.append_of_mem h
  have hback := (prefix_intercalate_cons sep p back).isInfix
  cases front with
  | nil => exact hback
  | cons q front =>
    rw [intercalate_append (by simp) (by simp)]
    exact hback.trans (List.suffix_append _ _).isInfix

theorem mem_intercalate_of_mem {sep p : Text} {ps : List Text} {c : Char} (h : p ∈ ps)
    (hc : c ∈ p) : c ∈ sep.intercalate ps := (infix_intercalate_of_mem h).subset hc

theorem mem_of_mem_intercalate {sep : Text} {ps : List Text} {c : Char}
    (h : c ∈ sep.intercalate ps) : c ∈ sep ∨ ∃ p ∈ ps, c ∈ p := by
  induction ps with
  | nil => cases h
  | cons q qs ih =>
    cases qs with
    | nil => exact .inr ⟨q, by simp, by simpa using h⟩
    | cons r rs =>
      rw [List.intercalate_cons_cons, List.mem_append, List.mem_append] at h
      rcases h with (h | h) | h
      · exact .inr ⟨q, by simp, h⟩
      · exact .inl h
      · rcases ih h with h | ⟨p, hp, h⟩
        · exact .inl h
        · exact .inr ⟨p, by simp [hp], h⟩

section Split

variable {sep : Char}

theorem splitOn_append_of_not_mem {a t p : Text} {ps : List Text} (ha : sep ∉ a)
    (h : t.splitOn sep = p :: ps) : (a ++ t).splitOn sep = (a ++ p) :: ps := by
  induction a with
  | nil => exact h
  | cons c a ih =>
    rw [List.mem_cons, not_or] at ha
    rw [List.cons_append, List.splitOn_cons_eq_if_modifyHead, ih ha.2]
    simp [Ne.symm ha.1]

theorem not_mem_of_mem_splitOn {t p : Text} (h : p ∈ t.splitOn sep) : sep ∉ p := by
  induction t generalizing p with
  | nil =>
    rw [List.splitOn_nil, List.mem_singleton] at h
    simp [h]
  | cons c t ih =>
    obtain ⟨q, qs, e⟩ := List.exists_cons_of_ne_nil (List.splitOn_ne_nil sep t)
    rw [e] at ih
    rw [List.splitOn_cons_eq_if_modifyHead, e] at h
    split at h
    · rcases List.mem_cons.1 h with rfl | h
      · simp
      · exact ih h
    · rename_i hc
      rcases List.mem_cons.1 h with rfl | h
      · rw [List.mem_cons, not_or]
        exact ⟨fun hsep => hc (by simp [hsep]), ih (by simp)⟩
      · exact ih (by simp [h])

theorem mem_of_mem_splitOn {t p : Text} {c : Char} (h : p ∈ t.splitOn sep) (hc : c ∈ p) :
    c ∈ t := by
  have e : [sep].intercalate (t.splitOn sep) = t := List.intercalate_splitOn sep
  rw [← e]
  exact mem_intercalate_of_mem h hc

end Split

end DocTag.Text
