import DocTag.Proofs.Dedent
import Mathlib.Data.List.Forall2

namespace DocTag.Text

/-- The same characters other than blanks, and blanks in the same places. Which blanks, and how
    many, does not matter. -/
inductive Respaced : Text → Text → Prop
  | nil : Respaced [] []
  | char {c : Char} {t u : Text} : isBlank c = false → Respaced t u → Respaced (c :: t) (c :: u)
  | gap {a b t u : Text} : a ≠ [] → b ≠ [] → a.Blank → b.Blank → Respaced t u →
      Respaced (a ++ t) (b ++ u)

namespace Respaced

theorem refl (t : Text) : Respaced t t := by
  induction t with
  | nil => exact .nil
  | cons c t ih =>
    cases hc : isBlank c with
    | false => exact .char hc ih
    | true => exact @gap [c] [c] t t (by simp) (by simp) (by simpa [Blank]) (by simpa [Blank]) ih

theorem symm {t u : Text} (h : Respaced t u) : Respaced u t := by
  induction h with
  | nil => exact .nil
  | char hc _ ih => exact .char hc ih
  | gap ha hb hA hB _ ih => exact .gap hb ha hB hA ih

theorem append {t u t' u' : Text} (h : Respaced t u) (h' : Respaced t' u') :
    Respaced (t ++ t') (u ++ u') := by
  induction h with
  | nil => exact h'
  | char hc _ ih => exact .char hc ih
  | gap ha hb hA hB _ ih =>
    rw [List.append_assoc, List.append_assoc]
    exact .gap ha hb hA hB ih

theorem of_blank {a b : Text} (ha : a ≠ []) (hb : b ≠ []) (hA : a.Blank) (hB : b.Blank) :
    Respaced a b := by
  simpa using Respaced.gap ha hb hA hB .nil

theorem reverse {t u : Text} (h : Respaced t u) : Respaced t.reverse u.reverse := by
  induction h with
  | nil => exact .nil
  | char hc _ ih =>
    rw [List.reverse_cons, List.reverse_cons]
    exact ih.append (.char hc .nil)
  | gap ha hb hA hB _ ih =>
    rw [List.reverse_append, List.reverse_append]
    exact ih.append (of_blank (by simpa) (by simpa) hA.reverse hB.reverse)

theorem eq_nil_iff {t u : Text} (h : Respaced t u) : t = [] ↔ u = [] := by
  cases h with
  | nil => rfl
  | char => simp
  | gap ha hb => simp [ha, hb]

theorem eq_of_solid {t u : Text} (h : Respaced t u) (ht : ∀ c ∈ t, isBlank c = false) : t = u := by
  induction h with
  | nil => rfl
  | char _ _ ih => rw [ih fun c hc => ht c (List.mem_cons_of_mem _ hc)]
  | gap ha _ hA =>
    obtain ⟨c, a, rfl⟩ := List.exists_cons_of_ne_nil ha
    have hc := ht c (by simp)
    rw [hA c (by simp)] at hc
    cases hc

section Run

variable {p : Char → Bool} {b : Bool}

theorem dropWhile (hp : ∀ c, isBlank c = true → p c = b) {t u : Text} (h : Respaced t u) :
    Respaced (t.dropWhile p) (u.dropWhile p) := by
  induction h with
  | nil => exact .nil
  | @char c t u hc h ih =>
    cases hpc : p c with
    | true => simpa [hpc] using ih
    | false => simpa [hpc] using Respaced.char hc h
  | @gap x y t u hx hy hX hY h ih =>
    cases b with
    | true =>
      rwa [List.dropWhile_append_of_pos fun c hc => hp c (hX c hc),
        List.dropWhile_append_of_pos fun c hc => hp c (hY c hc)]
    | false =>
      rw [dropWhile_eq_self fun c hc => hp c (hX.head?_append hx t c hc),
        dropWhile_eq_self fun c hc => hp c (hY.head?_append hy u c hc)]
      exact .gap hx hy hX hY h

theorem takeWhile (hp : ∀ c, isBlank c = true → p c = b) {t u : Text} (h : Respaced t u) :
    Respaced (t.takeWhile p) (u.takeWhile p) := by
  induction h with
  | nil => exact .nil
  | @char c t u hc h ih =>
    cases hpc : p c with
    | true => simpa [hpc] using Respaced.char hc ih
    | false => simpa [hpc] using Respaced.nil
  | @gap x y t u hx hy hX hY h ih =>
    cases b with
    | true =>
      rw [List.takeWhile_append_of_pos fun c hc => hp c (hX c hc),
        List.takeWhile_append_of_pos fun c hc => hp c (hY c hc)]
      exact .gap hx hy hX hY ih
    | false =>
      rw [takeWhile_eq_nil fun c hc => hp c (hX.head?_append hx t c hc),
        takeWhile_eq_nil fun c hc => hp c (hY.head?_append hy u c hc)]
      exact .nil

theorem takeWhile_eq (hp : ∀ c, isBlank c = true → p c = false) {t u : Text} (h : Respaced t u) :
    t.takeWhile p = u.takeWhile p := by
  refine (h.takeWhile hp).eq_of_solid fun c hc => ?_
  cases hb : isBlank c with
  | false => rfl
  | true =>
    have hc := List.mem_takeWhile_imp hc
    rw [hp c hb] at hc
    cases hc

end Run

theorem trimStart {t u : Text} (h : Respaced t u) : Respaced t.trimStart u.trimStart :=
  h.dropWhile fun _ hc => hc

theorem trim {t u : Text} (h : Respaced t u) : Respaced t.trim u.trim :=
  h.trimStart.reverse.trimStart.reverse

theorem isPrefixOf? (lead : Text) (hlead : ∀ c ∈ lead, isBlank c = false) {t u : Text}
    (h : Respaced t u) : Option.Rel Respaced (lead.isPrefixOf? t) (lead.isPrefixOf? u) := by
  induction lead generalizing t u with
  | nil => exact .some h
  | cons l lead ih =>
    rw [List.forall_mem_cons] at hlead
    cases h with
    | nil => exact .none
    | @char c t u hc h =>
      by_cases e : l = c
      · simpa [List.isPrefixOf?, e] using ih hlead.2 h
      · simp [List.isPrefixOf?, e]
    | @gap a b t u ha hb hA hB h =>
      obtain ⟨c, a, rfl⟩ := List.exists_cons_of_ne_nil ha
      obtain ⟨d, b, rfl⟩ := List.exists_cons_of_ne_nil hb
      have hne : ∀ e, isBlank e = true → l ≠ e := by
        rintro _ he rfl
        rw [hlead.1] at he
        cases he
      simp [List.isPrefixOf?, hne c (hA c (by simp)), hne d (hB d (by simp))]

theorem dropMark (lead : Text) (hlead : ∀ c ∈ lead, isBlank c = false) {t u : Text}
    (h : Respaced t u) : (Text.dropMark lead t).1 = (Text.dropMark lead u).1 ∧
      Respaced (Text.dropMark lead t).2 (Text.dropMark lead u).2 := by
  have hrel := h.isPrefixOf? lead hlead
  unfold Text.dropMark
  generalize lead.isPrefixOf? t = x at hrel
  generalize lead.isPrefixOf? u = y at hrel
  cases hrel with
  | none => exact ⟨rfl, h⟩
  | some hrest => exact ⟨rfl, hrest⟩

end Respaced

theorem Respaced.splitOn {sep : Char} (hsep : isBlank sep = false) {t u : Text}
    (h : Respaced t u) : List.Forall₂ Respaced (t.splitOn sep) (u.splitOn sep) := by
  induction h with
  | nil => exact .cons .nil .nil
  | @char c t u hc h ih =>
    obtain ⟨p, ps, hp⟩ := List.exists_cons_of_ne_nil (List.splitOn_ne_nil sep t)
    obtain ⟨q, qs, hq⟩ := List.exists_cons_of_ne_nil (List.splitOn_ne_nil sep u)
    rw [hp, hq, List.forall₂_cons] at ih
    rw [List.splitOn_cons_eq_if_modifyHead, List.splitOn_cons_eq_if_modifyHead, hp, hq]
    by_cases e : c = sep
    · simpa [e] using ⟨Respaced.nil, ih⟩
    · simpa [e] using ⟨Respaced.char hc ih.1, ih.2⟩
  | @gap a b t u ha hb hA hB h ih =>
    obtain ⟨p, ps, hp⟩ := List.exists_cons_of_ne_nil (List.splitOn_ne_nil sep t)
    obtain ⟨q, qs, hq⟩ := List.exists_cons_of_ne_nil (List.splitOn_ne_nil sep u)
    rw [hp, hq, List.forall₂_cons] at ih
    rw [splitOn_append_of_not_mem (hA.not_mem hsep) hp,
      splitOn_append_of_not_mem (hB.not_mem hsep) hq]
    exact .cons (.gap ha hb hA hB ih.1) ih.2

theorem Respaced.arguments {t u : Text} (h : Respaced t u) :
    List.Forall₂ Respaced t.arguments u.arguments := by
  have hempty := h.trim.eq_nil_iff
  unfold Text.arguments
  by_cases ht : t.trim = []
  · simp [ht, hempty.1 ht]
  · rw [if_neg (by simpa using ht), if_neg (by simpa [hempty] using ht)]
    rw [List.forall₂_map_left_iff, List.forall₂_map_right_iff]
    exact (h.splitOn (by decide)).imp fun _ _ h => h.trim

theorem exists_unlines_cons (l : Text) {ls : List Text} (h : ls ≠ []) :
    ∃ a gap b : Text, a.Blank ∧ gap ≠ [] ∧ gap.Blank ∧ b.Blank ∧
      unlines (l :: ls) = a ++ (l.trim ++ (gap ++ (unlines ls).trim)) ++ b := by
  obtain ⟨a, b, ha, hb, hl⟩ := exists_trim l
  obtain ⟨a', b', ha', hb', hu⟩ := exists_trim (unlines ls)
  refine ⟨a, b ++ '\n' :: a', b', ha, by simp, ?_, hb', ?_⟩
  · intro c hc
    rcases List.mem_append.1 hc with hc | hc
    · exact hb c hc
    · rcases List.mem_cons.1 hc with rfl | hc
      · decide
      · exact ha' c hc
  · rw [unlines_cons h]
    conv_lhs => rw [hl, hu]
    simp

theorem respaced_trim_unlines {ls ls' : List Text}
    (h : List.Forall₂ (fun l l' => Text.trim l = Text.trim l') ls ls') :
    Respaced (unlines ls).trim (unlines ls').trim := by
  induction h with
  | nil => exact .refl _
  | @cons l l' ls ls' hl hls ih =>
    cases hls with
    | nil =>
      rw [unlines_singleton, unlines_singleton, hl]
      exact .refl _
    | @cons m m' ms ms' =>
      obtain ⟨a, gap, b, ha, hgap, hG, hb, e⟩ := exists_unlines_cons l (List.cons_ne_nil m ms)
      obtain ⟨a', gap', b', ha', hgap', hG', hb', e'⟩ :=
        exists_unlines_cons l' (List.cons_ne_nil m' ms')
      rw [e, e', trim_append_blank _ hb, trim_append_blank _ hb', trim_append_of_blank ha,
        trim_append_of_blank ha', ← hl]
      exact ((Respaced.refl l.trim).append ((Respaced.of_blank hgap hgap' hG hG').append ih)).trim

theorem indent_le_length (l : Text) : l.indent ≤ l.length :=
  (List.takeWhile_prefix isBlank).length_le

theorem blank_take {l : Text} {n : Nat} (h : n ≤ l.indent) : Blank (l.take n) := by
  have hrun : l.take n <+: l.takeWhile isBlank :=
    List.prefix_of_prefix_length_le (List.take_prefix n l) (List.takeWhile_prefix _)
      ((List.length_take_le n l).trans h)
  exact fun c hc => blank_takeWhile l c (hrun.subset hc)

theorem trim_cut {l : Text} {n : Nat} (h : l.trim ≠ [] → n ≤ l.indent) :
    (trimEnd (l.drop n)).trim = l.trim := by
  -- The removal of indentation and of trailing blanks leaves a line's words.
  obtain ⟨b, hb, e⟩ := exists_trimEnd (l.drop n)
  have hdrop : Text.trim (l.drop n) = l.trim := by
    have htake : Blank (l.take n) := by
      by_cases hl : l.trim = []
      · exact fun c hc => blank_of_trim_eq_nil hl c (List.mem_of_mem_take hc)
      · exact blank_take (h hl)
    calc
      Text.trim (l.drop n) = Text.trim (l.take n ++ l.drop n) :=
        (trim_append_of_blank htake _).symm
      _ = l.trim := by rw [List.take_append_drop]
  calc
    (trimEnd (l.drop n)).trim = (trimEnd (l.drop n) ++ b).trim := (trim_append_blank _ hb).symm
    _ = l.trim := by rw [← e, hdrop]

theorem respaced_dedent (t : Text) : Respaced t.trim t.dedent := by
  have hjoin := unlines_lines t
  unfold dedent
  split
  · rename_i hlines
    exact absurd hlines (List.splitOn_ne_nil _ _)
  · rename_i l hlines
    obtain rfl : l = t := by rwa [hlines, unlines_singleton] at hjoin
    exact .refl _
  · rename_i first rest _ hlines
    rw [hlines] at hjoin
    rw [← hjoin]
    refine respaced_trim_unlines (.cons (tight_trim first).trim_eq.symm ?_)
    rw [List.forall₂_map_right_iff, List.forall₂_same]
    exact fun l hl => (trim_cut fun hne => commonIndent_le hl hne).symm

end DocTag.Text
