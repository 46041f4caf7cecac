import DocTag.Proofs.Blank
import DocTag.Text.Dedent
import Mathlib.Data.List.Induction

/-!
The texts that dedentation leaves alone. A text whose first line is not blank becomes one of them,
and whatever blanks stand before one of them are taken off again.
-/

namespace DocTag.Text

theorem trimEnd_of_blank {t : Text} (h : t.Blank) : t.trimEnd = [] := by
  simpa using trimEnd_append (t := []) h (by simp)

theorem trimEnd_append_blank (t : Text) {b : Text} (hb : b.Blank) :
    (t ++ b).trimEnd = t.trimEnd := by
  obtain ⟨b', hb', e⟩ := exists_trimEnd t
  calc
    (t ++ b).trimEnd = (t.trimEnd ++ (b' ++ b)).trimEnd := by rw [← List.append_assoc, ← e]
    _ = t.trimEnd := trimEnd_append (hb'.append hb) (getLast?_trimEnd t)

theorem mem_of_mem_trimEnd {c : Char} {t : Text} (h : c ∈ t.trimEnd) : c ∈ t := by
  obtain ⟨b, -, e⟩ := exists_trimEnd t
  rw [e]
  exact List.mem_append_left b h

theorem drop_indent (l : Text) : l.drop l.indent = l.trimStart := by
  have hsplit : l = l.takeWhile isBlank ++ l.trimStart := List.takeWhile_append_dropWhile.symm
  calc
    l.drop l.indent = (l.takeWhile isBlank ++ l.trimStart).drop (l.takeWhile isBlank).length := by
      rw [← hsplit, indent]
    _ = l.trimStart := List.drop_left

theorem indent_eq_zero {t : Text} (h : t.Tight) : t.indent = 0 := by
  rw [indent, takeWhile_eq_nil h.head, List.length_nil]

theorem exists_indent_eq {ls : List Text} (h : ∃ l ∈ ls, l.trim ≠ []) :
    ∃ l ∈ ls, l.trim ≠ [] ∧ l.indent = commonIndent ls := by
  obtain ⟨l, hl, hne⟩ := h
  have hmem : l.indent ∈ (ls.filter fun l => !l.trim.isEmpty).map indent :=
    List.mem_map_of_mem (List.mem_filter.2 ⟨hl, by simpa using hne⟩)
  obtain ⟨m, hm⟩ := Option.isSome_iff_exists.1 (List.isSome_min?_of_mem hmem)
  obtain ⟨l', hl', hindent⟩ := List.mem_map.1 (List.min?_mem hm)
  obtain ⟨hl', hne'⟩ := List.mem_filter.1 hl'
  refine ⟨l', hl', by simpa using hne', ?_⟩
  rw [commonIndent, hm, hindent]
  rfl

theorem commonIndent_le {ls : List Text} {l : Text} (hl : l ∈ ls) (hne : l.trim ≠ []) :
    commonIndent ls ≤ l.indent := by
  have hmem : l.indent ∈ (ls.filter fun l => !l.trim.isEmpty).map indent :=
    List.mem_map_of_mem (List.mem_filter.2 ⟨hl, by simpa using hne⟩)
  obtain ⟨m, hm⟩ := Option.isSome_iff_exists.1 (List.isSome_min?_of_mem hmem)
  rw [commonIndent, hm]
  exact (List.min?_eq_some_iff.1 hm).2 _ hmem

theorem commonIndent_of_blank {ls : List Text} (h : ∀ l ∈ ls, l.trim = []) :
    commonIndent ls = 0 := by
  have hnone : ls.filter (fun l => !l.trim.isEmpty) = [] := by
    rw [List.filter_eq_nil_iff]
    intro l hl
    simp [h l hl]
  rw [commonIndent, hnone]
  rfl

theorem commonIndent_append_nil (ls : List Text) (n : Nat) :
    commonIndent (ls ++ List.replicate n []) = commonIndent ls := by
  simp [commonIndent, trim, trimStart, trimEnd]

theorem commonIndent_cut (ls : List Text) :
    commonIndent (ls.map fun l => trimEnd (l.drop (commonIndent ls))) = 0 := by
  by_cases h : ∃ l ∈ ls, l.trim ≠ []
  · obtain ⟨l, hl, hne, hindent⟩ := exists_indent_eq h
    have hmem : l.trim ∈ ls.map fun l => trimEnd (l.drop (commonIndent ls)) :=
      List.mem_map.2 ⟨l, hl, by rw [← hindent, drop_indent, trim]⟩
    have htight := tight_trim l
    have hle := commonIndent_le hmem (by rwa [htight.trim_eq])
    rwa [indent_eq_zero htight, Nat.le_zero] at hle
  · apply commonIndent_of_blank
    intro l hl
    obtain ⟨l', hl', rfl⟩ := List.mem_map.1 hl
    have hblank : l'.Blank := by
      apply blank_of_trim_eq_nil
      by_contra hne
      exact h ⟨l', hl', hne⟩
    rw [trimEnd_of_blank fun c hc => hblank c (List.mem_of_mem_drop hc)]
    rfl

theorem unlines_append_singleton {ls : List Text} (h : ls ≠ []) (l : Text) :
    unlines (ls ++ [l]) = unlines ls ++ '\n' :: l := by
  rw [unlines, intercalate_append h (by simp), List.append_assoc, List.intercalate_singleton,
    List.singleton_append, unlines]

theorem mem_head?_unlines {first : Text} {rest : List Text} {c : Char} (h : c ∈ first.head?) :
    c ∈ (unlines (first :: rest)).head? := by
  cases first with
  | nil => cases h
  | cons d first =>
    rw [unlines, List.intercalate_cons_cons_left]
    exact h

theorem getLast?_unlines_append {l : Text} (hl : l ≠ []) (ls : List Text) :
    (unlines (ls ++ [l])).getLast? = l.getLast? := by
  by_cases hls : ls = []
  · rw [hls, List.nil_append, unlines_singleton]
  · rw [unlines_append_singleton hls, List.getLast?_append_of_ne_nil _ (by simp),
      List.getLast?_cons_of_ne_nil hl]

theorem exists_trimEnd_unlines {ls : List Text}
    (h : ∀ l ∈ ls, ∀ c ∈ l.getLast?, isBlank c = false) :
    ∃ kept n, ls = kept ++ List.replicate n [] ∧ (unlines ls).trimEnd = unlines kept := by
  induction ls using List.reverseRecOn with
  | nil => exact ⟨[], 0, rfl, rfl⟩
  | append_singleton ls l ih =>
    cases l with
    | nil =>
      obtain ⟨kept, n, e, htrim⟩ := ih fun l hl => h l (by simp [hl])
      refine ⟨kept, n + 1, ?_, ?_⟩
      · rw [List.replicate_succ', ← List.append_assoc, ← e]
      · rw [← htrim]
        by_cases hls : ls = []
        · rw [hls]; rfl
        · rw [unlines_append_singleton hls]
          exact trimEnd_append_blank _ (by decide)
    | cons c l =>
      have hlast : ∀ d ∈ (unlines (ls ++ [c :: l])).getLast?, isBlank d = false := by
        rw [getLast?_unlines_append (by simp)]
        exact h (c :: l) (by simp)
      exact ⟨ls ++ [c :: l], 0, by simp, trimEnd_eq_self hlast⟩

@[simp] theorem dedent_nil : dedent [] = [] := rfl

theorem tight_dedent (t : Text) : t.dedent.Tight := by
  unfold dedent
  split
  · exact tight_of_forall (by simp)
  · exact tight_trim _
  · exact tight_trim _

/-- A text without blanks around it or at the end of a line, and without a common indentation. -/
structure Dedented (t : Text) : Prop where
  tight : t.Tight
  lines : ∀ l ∈ t.lines, ∀ c ∈ l.getLast?, isBlank c = false
  level : commonIndent t.lines.tail = 0

theorem Dedented.dedent_eq {t : Text} (h : t.Dedented) : t.dedent = t := by
  have hjoin := unlines_lines t
  unfold dedent
  split
  · rename_i hlines
    exact absurd hlines (List.splitOn_ne_nil _ _)
  · rename_i l hlines
    obtain rfl : l = t := by rwa [hlines, unlines_singleton] at hjoin
    exact h.tight.trim_eq
  · rename_i first rest _ hlines
    have hlevel : commonIndent rest = 0 := by simpa [hlines] using h.level
    have hrest : rest.map (fun l => trimEnd (l.drop (commonIndent rest))) = rest := by
      rw [hlevel]
      refine (List.map_congr_left ?_).trans (List.map_id rest)
      intro l hl
      exact trimEnd_eq_self (h.lines l (by simp [hlines, hl]))
    have hfirst : first.trim = first := by
      refine Tight.trim_eq ⟨?_, h.lines first (by simp [hlines])⟩
      intro c hc
      apply h.tight.head
      rw [← hjoin, hlines]
      exact mem_head?_unlines hc
    simp only [hrest, hfirst, ← hlines, hjoin, h.tight.trim_eq]

theorem dedented_trim_unlines {first : Text} {rest : List Text} (hne : first ≠ [])
    (hfirst : first.Tight)
    (hrest : ∀ l ∈ rest, ∀ c ∈ l.getLast?, isBlank c = false) (hlevel : commonIndent rest = 0)
    (hline : ∀ l ∈ first :: rest, '\n' ∉ l) : (unlines (first :: rest)).trim.Dedented := by
  obtain ⟨c, hc⟩ : ∃ c, c ∈ first.head? := by
    obtain ⟨c, t, rfl⟩ := List.exists_cons_of_ne_nil hne
    exact ⟨c, rfl⟩
  obtain ⟨kept, n, hkept, htrim⟩ :=
    exists_trimEnd_unlines (List.forall_mem_cons.2 ⟨hfirst.last, hrest⟩)
  obtain ⟨kept, rfl, rfl⟩ : ∃ ls, kept = first :: ls ∧ rest = ls ++ List.replicate n [] := by
    cases kept with
    | nil =>
      exact absurd (List.eq_of_mem_replicate (hkept ▸ List.mem_cons_self)) hne
    | cons l ls =>
      obtain ⟨rfl, rfl⟩ := List.cons.inj hkept
      exact ⟨ls, rfl, rfl⟩
  have hstart : (unlines (first :: (kept ++ List.replicate n []))).trimStart =
      unlines (first :: (kept ++ List.replicate n [])) := by
    apply trimStart_eq_self
    intro d hd
    obtain rfl := Option.mem_unique hd (mem_head?_unlines hc)
    exact hfirst.head d hc
  have hlines : (unlines (first :: kept)).lines = first :: kept := by
    apply lines_unlines (by simp)
    intro l hl
    exact hline l (by simp at hl ⊢; tauto)
  have htight := tight_trim (unlines (first :: (kept ++ List.replicate n [])))
  rw [trim, hstart, htrim] at htight ⊢
  refine ⟨htight, ?_, ?_⟩
  · rw [hlines]
    intro l hl
    rcases List.mem_cons.1 hl with rfl | hl
    · exact hfirst.last
    · exact hrest l (by simp [hl])
  · rwa [hlines, List.tail_cons, ← commonIndent_append_nil kept n]

theorem dedented_dedent {t : Text} (h : ∀ c ∈ t.head?, isBlank c = false) : t.dedent.Dedented := by
  have hjoin := unlines_lines t
  have hline : ∀ l ∈ t.lines, '\n' ∉ l := fun l hl => not_mem_of_mem_splitOn hl
  unfold dedent
  split
  · rename_i hlines
    exact absurd hlines (List.splitOn_ne_nil _ _)
  · rename_i l hlines
    have hl : '\n' ∉ l.trim := fun hmem => hline l (by simp [hlines]) (mem_of_mem_trim hmem)
    have hsingle : l.trim.lines = [l.trim] := List.splitOn_eq_singleton hl
    refine ⟨tight_trim l, ?_, by rw [hsingle]; rfl⟩
    rw [hsingle]
    simpa using (tight_trim l).last
  · rename_i first rest hmore hlines
    rw [hlines] at hjoin hline
    have hfirst : first.trim ≠ [] := by
      intro e
      cases first with
      | nil =>
        have hhead : '\n' ∈ t.head? := by
          rw [← hjoin, unlines_cons (by simpa using hmore)]
          rfl
        exact absurd (h _ hhead) (by decide)
      | cons c first =>
        have hc := h c (by rw [← hjoin]; exact mem_head?_unlines rfl)
        rw [blank_of_trim_eq_nil e c (by simp)] at hc
        cases hc
    refine dedented_trim_unlines hfirst (tight_trim first) ?_ (commonIndent_cut rest) ?_
    · intro l hl
      obtain ⟨l, -, rfl⟩ := List.mem_map.1 hl
      exact getLast?_trimEnd _
    · intro l hl hmem
      rcases List.mem_cons.1 hl with rfl | hl
      · exact hline first (by simp) (mem_of_mem_trim hmem)
      · obtain ⟨l, hrest, rfl⟩ := List.mem_map.1 hl
        exact hline l (by simp [hrest]) (List.mem_of_mem_drop (mem_of_mem_trimEnd hmem))

theorem lines_append_newline {a : Text} (ha : '\n' ∉ a) (t : Text) :
    (a ++ '\n' :: t).lines = a :: t.lines := List.splitOn_append_cons_self_of_not_mem ha t

theorem lines_append {a t first : Text} {rest : List Text} (ha : '\n' ∉ a)
    (ht : t.lines = first :: rest) : (a ++ t).lines = (a ++ first) :: rest :=
  splitOn_append_of_not_mem ha ht

theorem dedent_append {a : Text} (ha : a.Blank) (hline : '\n' ∉ a) (t : Text) :
    (a ++ t).dedent = t.dedent := by
  obtain ⟨first, rest, ht⟩ := List.exists_cons_of_ne_nil (List.splitOn_ne_nil '\n' t)
  have ht : t.lines = first :: rest := ht
  simp only [dedent, lines_append hline ht, ht]
  cases rest with
  | nil => exact trim_append_of_blank ha first
  | cons l rest => simp only [trim_append_of_blank ha first]

/-- Dedentation of lines of which the first one counts as the others do. -/
def flush (t : Text) : Text :=
  (unlines (t.lines.map fun l => trimEnd (l.drop (commonIndent t.lines)))).trim

theorem blank_drop {t : Text} (h : t.Blank) (n : Nat) : Blank (t.drop n) :=
  fun c hc => h c (List.mem_of_mem_drop hc)

theorem trim_unlines_nil {ls : List Text} (h : ls ≠ []) :
    (unlines ([] :: ls)).trim = (unlines ls).trim := by
  rw [unlines_cons h]
  exact trim_append_of_blank (a := ['\n']) (by decide) _

theorem dedent_append_newline {a : Text} (ha : a.Blank) (hline : '\n' ∉ a) (t : Text) :
    (a ++ '\n' :: t).dedent = t.flush := by
  obtain ⟨first, rest, ht⟩ := List.exists_cons_of_ne_nil (List.splitOn_ne_nil '\n' t)
  have ht : t.lines = first :: rest := ht
  simp only [dedent, lines_append_newline hline, ht, trim_of_blank ha, flush]
  exact trim_unlines_nil (by simp)

theorem commonIndent_cons_of_blank {l : Text} (h : l.Blank) (ls : List Text) :
    commonIndent (l :: ls) = commonIndent ls := by
  simp [commonIndent, trim_of_blank h]

theorem flush_append_newline {a : Text} (ha : a.Blank) (hline : '\n' ∉ a) (t : Text) :
    (a ++ '\n' :: t).flush = t.flush := by
  have hne : t.lines ≠ [] := List.splitOn_ne_nil '\n' t
  rw [flush, lines_append_newline hline, commonIndent_cons_of_blank ha, List.map_cons,
    trimEnd_of_blank (blank_drop ha _), trim_unlines_nil (by simpa using hne), flush]

theorem Dedented.exists_line {d : Text} (h : d.Dedented) (hmore : d.lines.tail ≠ []) :
    ∃ l ∈ d.lines.tail, l.trim ≠ [] := by
  obtain ⟨ls, l, htail⟩ := (List.eq_nil_or_concat' d.lines.tail).resolve_left hmore
  refine ⟨l, by simp [htail], fun e => ?_⟩
  obtain ⟨first, hlines⟩ : ∃ first, d.lines = first :: (ls ++ [l]) := by
    rw [← htail]
    exact ⟨_, (List.cons_head_tail (List.splitOn_ne_nil '\n' d)).symm⟩
  have hlast : d = unlines (first :: ls) ++ '\n' :: l := by
    rw [← unlines_lines d, hlines, ← List.cons_append, unlines_append_singleton (by simp)]
  have hblank := blank_of_trim_eq_nil e
  cases l with
  | nil => exact absurd (h.tight.last '\n' (by simp [hlast])) (by decide)
  | cons c l =>
    obtain ⟨b, hb⟩ :=
      Option.isSome_iff_exists.1 (List.getLast?_isSome.2 (show c :: l ≠ [] by simp))
    have := h.lines (c :: l) (by simp [hlines]) b hb
    rw [hblank b (List.mem_of_getLast? hb)] at this
    cases this

theorem Dedented.tight_first {d first : Text} {rest : List Text} (h : d.Dedented)
    (hlines : d.lines = first :: rest) : first.Tight := by
  refine ⟨fun c hc => h.tight.head c ?_, h.lines first (by simp [hlines])⟩
  rw [← unlines_lines d, hlines]
  exact mem_head?_unlines hc

theorem Dedented.first_ne_nil {d first : Text} {rest : List Text} (h : d.Dedented) (hd : d ≠ [])
    (hlines : d.lines = first :: rest) : first ≠ [] := by
  have hjoin := unlines_lines d
  rintro rfl
  cases rest with
  | nil => exact hd (by rw [← hjoin, hlines]; rfl)
  | cons l rest =>
    rw [hlines, unlines_cons (by simp)] at hjoin
    exact absurd (h.tight.head '\n' (by rw [← hjoin]; rfl)) (by decide)

theorem Dedented.flush_append {d a : Text} (h : d.Dedented) (hd : d ≠ []) (ha : a.Blank)
    (hline : '\n' ∉ a) : (a ++ d).flush = d := by
  -- Blanks before the first line do not shift the others, of which one is not indented.
  obtain ⟨first, rest, hlines⟩ := List.exists_cons_of_ne_nil (List.splitOn_ne_nil '\n' d)
  have hlines : d.lines = first :: rest := hlines
  have hfirst := h.tight_first hlines
  have hne := h.first_ne_nil hd hlines
  rw [flush, lines_append hline hlines]
  generalize hk : commonIndent ((a ++ first) :: rest) = k
  have hle : k ≤ a.length := by
    have hindent : (a ++ first).indent = a.length := by
      rw [indent, takeWhile_append_run ha hfirst.head]
    have htrim : (a ++ first).trim ≠ [] := by rwa [trim_append_of_blank ha, hfirst.trim_eq]
    rw [← hk, ← hindent]
    exact commonIndent_le (by simp) htrim
  have hcut : trimEnd ((a ++ first).drop k) = a.drop k ++ first := by
    rw [List.drop_append_of_le_length hle]
    apply trimEnd_eq_self
    rw [List.getLast?_append_of_ne_nil _ hne]
    exact hfirst.last
  have hrest : rest.map (fun l => trimEnd (l.drop k)) = rest := by
    by_cases hmore : rest = []
    · rw [hmore]; rfl
    · have hlevel := h.level
      have hexists := h.exists_line (by rwa [hlines])
      rw [hlines, List.tail_cons] at hlevel hexists
      obtain ⟨l, hl, htrim, hindent⟩ := exists_indent_eq hexists
      have hzero : k = 0 := by
        have hmem : l ∈ (a ++ first) :: rest := by simp [hl]
        have hle := commonIndent_le hmem htrim
        omega
      rw [hzero]
      refine (List.map_congr_left fun l hl => ?_).trans (List.map_id rest)
      exact trimEnd_eq_self (h.lines l (by simp [hlines, hl]))
  have hjoin : unlines ((a.drop k ++ first) :: rest) = a.drop k ++ d := by
    rw [← unlines_lines d, hlines]
    cases rest <;> simp [unlines]
  rw [List.map_cons, hcut, hrest, hjoin, trim_append_of_blank (blank_drop ha k), h.tight.trim_eq]

theorem dedented_of_dedent_eq {d : Text} (h : d.dedent = d) : d.Dedented := by
  have htight := tight_dedent d
  rw [h] at htight
  have hd := dedented_dedent htight.head
  rwa [h] at hd

theorem Dedented.flush_append_blank {d w : Text} (h : d.Dedented) (hd : d ≠ []) (hw : w.Blank) :
    (w ++ d).flush = d := by
  by_cases hline : '\n' ∈ w
  · obtain ⟨a, b, e, ha⟩ := List.eq_append_cons_of_mem hline
    rw [e] at hw ⊢
    have hlt : b.length < w.length := by simp [e]; omega
    rw [List.append_assoc, List.cons_append,
      flush_append_newline (fun c hc => hw c (by simp [hc])) ha]
    exact h.flush_append_blank hd fun c hc => hw c (by simp [hc])
  · exact h.flush_append hd hw hline
termination_by w.length

theorem dedent_append_of_blank {d w : Text} (hd : d.dedent = d) (hne : d ≠ []) (hw : w.Blank) :
    (w ++ d).dedent = d := by
  by_cases hline : '\n' ∈ w
  · obtain ⟨a, b, rfl, ha⟩ := List.eq_append_cons_of_mem hline
    rw [List.append_assoc, List.cons_append,
      dedent_append_newline (fun c hc => hw c (by simp [hc])) ha]
    exact (dedented_of_dedent_eq hd).flush_append_blank hne fun c hc => hw c (by simp [hc])
  · rw [dedent_append hw hline, hd]

end DocTag.Text
