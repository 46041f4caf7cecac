import DocTag.Proofs.Trailing

namespace DocTag.Text

/-- The least indentation of the lines that are not blank; zero when all are. -/
structure LeastIndent (ls : List Text) (m : Nat) : Prop where
  le : ∀ l ∈ ls, ¬ l.Blank → m ≤ l.indent
  attained : (∃ l ∈ ls, ¬ l.Blank ∧ l.indent = m) ∨ (∀ l ∈ ls, l.Blank) ∧ m = 0

theorem leastIndent_commonIndent (ls : List Text) : LeastIndent ls (commonIndent ls) where
  le l hl hne := commonIndent_le hl (trim_eq_nil_iff.not.2 hne)
  attained := by
    by_cases h : ∃ l ∈ ls, l.trim ≠ []
    · simpa only [← trim_eq_nil_iff] using .inl (exists_indent_eq h)
    · push Not at h
      exact .inr ⟨fun l hl => blank_of_trim_eq_nil (h l hl), commonIndent_of_blank h⟩

/-- The lines from the first to the last one that is not blank, with the blank ones around them. -/
structure Frame (ls : List Text) where
  lead : List Text
  first : Text
  later : List Text
  rest : List Text
  eq : ls = lead ++ first :: (later ++ rest)
  blank_lead : ∀ l ∈ lead, l.Blank
  first_not_blank : ¬ first.Blank
  last_not_blank : ∀ l ∈ later.getLast?, ¬ l.Blank
  blank_rest : ∀ l ∈ rest, l.Blank

theorem exists_blank_rest (ls : List Text) : ∃ later rest : List Text, ls = later ++ rest ∧
    (∀ l ∈ later.getLast?, ¬ l.Blank) ∧ ∀ l ∈ rest, l.Blank := by
  induction ls using List.reverseRecOn with
  | nil => exact ⟨[], [], rfl, by simp, by simp⟩
  | append_singleton ls l ih =>
    by_cases hl : l.Blank
    · obtain ⟨later, rest, rfl, hlast, hrest⟩ := ih
      refine ⟨later, rest ++ [l], List.append_assoc .., hlast, ?_⟩
      exact List.forall_mem_append.2 ⟨hrest, by simpa⟩
    · exact ⟨ls ++ [l], [], by simp, by simpa, by simp⟩

theorem Frame.exists_of_not_blank {ls : List Text} (h : ∃ l ∈ ls, ¬ l.Blank) :
    Nonempty (Frame ls) := by
  induction ls with
  | nil => simp at h
  | cons l ls ih =>
    by_cases hl : l.Blank
    · obtain ⟨f⟩ := ih (by simpa [hl] using h)
      exact ⟨l :: f.lead, f.first, f.later, f.rest, congrArg (l :: ·) f.eq,
        List.forall_mem_cons.2 ⟨hl, f.blank_lead⟩, f.first_not_blank, f.last_not_blank,
        f.blank_rest⟩
    · obtain ⟨later, rest, rfl, hlast, hrest⟩ := exists_blank_rest ls
      exact ⟨[], l, later, rest, rfl, by simp, hl, hlast, hrest⟩

section Outer

variable {ls : List Text}

theorem trim_unlines_replicate_append (h : ls ≠ []) (n : Nat) :
    (unlines (List.replicate n [] ++ ls)).trim = (unlines ls).trim := by
  induction n with
  | zero => rfl
  | succ n ih =>
    rw [List.replicate_succ, List.cons_append, trim_unlines_nil (by simp [h]), ih]

theorem trim_unlines_append_replicate (h : ls ≠ []) (n : Nat) :
    (unlines (ls ++ List.replicate n [])).trim = (unlines ls).trim := by
  induction n with
  | zero => rw [List.replicate_zero, List.append_nil]
  | succ n ih =>
    rw [List.replicate_succ', ← List.append_assoc, unlines_append_singleton (by simp [h]),
      trim_append_blank _ (by decide), ih]

theorem trim_unlines_append {a first : Text} (ha : a.Blank) (hfirst : first.Tight)
    (hne : first ≠ []) (hend : ∀ l ∈ ls, ∀ c ∈ l.getLast?, isBlank c = false)
    (hlast : ∀ l ∈ ls.getLast?, l ≠ []) :
    (unlines ((a ++ first) :: ls)).trim = unlines (first :: ls) := by
  have hsplit : unlines ((a ++ first) :: ls) = a ++ unlines (first :: ls) ++ [] := by
    cases ls <;> simp [unlines_cons]
  have htight : Tight (unlines (first :: ls)) := by
    refine ⟨fun c hc => hfirst.head c ?_, ?_⟩
    · obtain ⟨d, first, rfl⟩ := List.exists_cons_of_ne_nil hne
      rwa [unlines, List.intercalate_cons_cons_left] at hc
    · rcases List.eq_nil_or_concat' ls with rfl | ⟨ls, l, rfl⟩
      · simpa using hfirst.last
      · rw [← List.cons_append, getLast?_unlines_append (hlast l (by simp))]
        exact hend l (by simp)
  rw [hsplit, trim_append ha htight blank_nil]

end Outer

theorem exists_trimEnd_eq_append (t : Text) : ∃ a : Text, a.Blank ∧ t.trimEnd = a ++ t.trim := by
  obtain ⟨a, b, ha, hb, e⟩ := exists_trim t
  by_cases h : t.trim = []
  · exact ⟨[], blank_nil, by rw [h, trimEnd_of_blank (blank_of_trim_eq_nil h), List.append_nil]⟩
  · have hend : ∀ c ∈ (a ++ t.trim).getLast?, isBlank c = false := by
      rw [List.getLast?_append_of_ne_nil _ h]
      exact (tight_trim t).last
    refine ⟨a, ha, ?_⟩
    conv_lhs => rw [e, trimEnd_append hb hend]

def cut (n : Nat) (l : Text) : Text := trimEnd (l.drop n)

theorem cut_of_blank {l : Text} (h : l.Blank) (n : Nat) : cut n l = [] :=
  trimEnd_of_blank (blank_drop h n)

theorem map_cut_of_blank {ls : List Text} (h : ∀ l ∈ ls, l.Blank) (n : Nat) :
    ls.map (cut n) = List.replicate ls.length [] := by
  rw [← List.map_const']
  exact List.map_congr_left fun l hl => cut_of_blank (h l hl) n

theorem LeastIndent.trim_cut {ls : List Text} {n : Nat} (h : LeastIndent ls n) {l : Text}
    (hl : l ∈ ls) : (cut n l).trim = l.trim :=
  Text.trim_cut fun hne => h.le l hl (trim_eq_nil_iff.not.1 hne)

namespace Frame

variable {t : Text}

theorem mem_iff {ls : List Text} (f : Frame ls) {l : Text} :
    l ∈ ls ↔ l ∈ f.lead ∨ l = f.first ∨ l ∈ f.later ∨ l ∈ f.rest := by
  conv_lhs => rw [f.eq]
  simp

theorem mem_tail {ls : List Text} (f : Frame ls) {l : Text} (h : l ∈ f.later) : l ∈ ls.tail := by
  rw [f.eq]
  cases f.lead <;> simp [h]

theorem exists_dedent_eq_trim (f : Frame t.lines) : ∃ (k : Nat) (a : Text), a.Blank ∧
    t.dedent = (unlines (List.replicate k [] ++ (a ++ f.first.trim) ::
      (f.later.map (cut (commonIndent t.lines.tail)) ++
        List.replicate f.rest.length []))).trim := by
  have hlines := f.eq
  have hleast := leastIndent_commonIndent t.lines.tail
  generalize hn : commonIndent t.lines.tail = n at hleast ⊢
  rw [← map_cut_of_blank f.blank_rest n, ← List.map_append]
  cases h : f.lead with
  | nil =>
    rw [h, List.nil_append] at hlines
    rw [hlines, List.tail_cons] at hn
    refine ⟨0, [], blank_nil, ?_⟩
    rw [dedent_of_lines hlines, hn]
    rfl
  | cons l lead =>
    have hblank := f.blank_lead
    rw [h, List.forall_mem_cons] at hblank
    rw [h, List.cons_append] at hlines
    have hmem : f.first ∈ t.lines.tail := by simp [hlines]
    obtain ⟨a, ha, e⟩ := exists_trimEnd_eq_append (f.first.drop n)
    have hcut : cut n f.first = a ++ f.first.trim := by
      rw [← hleast.trim_cut hmem, cut, trim_trimEnd, e]
    rw [hlines, List.tail_cons] at hn
    refine ⟨lead.length + 1, a, ha, ?_⟩
    rw [dedent_of_lines hlines, hn, trim_of_blank hblank.1, ← hcut, ← List.map_cons,
      List.replicate_succ, ← map_cut_of_blank hblank.2 n, List.cons_append, ← List.map_append]
    rfl

theorem dedent_eq (f : Frame t.lines) : t.dedent =
    unlines (f.first.trim :: f.later.map (cut (commonIndent t.lines.tail))) := by
  have hleast := leastIndent_commonIndent t.lines.tail
  obtain ⟨k, a, ha, e⟩ := f.exists_dedent_eq_trim
  rw [e, trim_unlines_replicate_append (by simp), ← List.cons_append,
    trim_unlines_append_replicate (by simp)]
  refine trim_unlines_append ha (tight_trim _) (trim_eq_nil_iff.not.2 f.first_not_blank) ?_ ?_
  · intro l hl
    obtain ⟨l, -, rfl⟩ := List.mem_map.1 hl
    exact getLast?_trimEnd _
  · intro l hl
    rw [List.getLast?_map, Option.mem_def, Option.map_eq_some_iff] at hl
    obtain ⟨l, hl, rfl⟩ := hl
    intro hnil
    have htrim := hleast.trim_cut (f.mem_tail (List.mem_of_getLast? hl))
    rw [hnil] at htrim
    exact f.last_not_blank l hl (blank_of_trim_eq_nil htrim.symm)

theorem lines_dedent (f : Frame t.lines) :
    t.dedent.lines = f.first.trim :: f.later.map (cut (commonIndent t.lines.tail)) := by
  have hline : ∀ l ∈ t.lines, '\n' ∉ l := fun l hl => not_mem_of_mem_splitOn hl
  rw [f.dedent_eq]
  refine lines_unlines (by simp) ?_
  intro l hl
  rcases List.mem_cons.1 hl with rfl | hl
  · intro hmem
    exact hline f.first (f.mem_iff.2 (by simp)) (mem_of_mem_trim hmem)
  · obtain ⟨l, hlater, rfl⟩ := List.mem_map.1 hl
    intro hmem
    exact hline l (List.mem_of_mem_tail (f.mem_tail hlater))
      (List.mem_of_mem_drop (mem_of_mem_trimEnd hmem))

theorem getElem?_dedent (f : Frame t.lines) {k : Nat} {l : Text} (hk : t.lines[k]? = some l)
    (hl : ¬ l.Blank) : f.lead.length ≤ k ∧ t.dedent.lines[k - f.lead.length]? =
      some (if k = f.lead.length then l.trim else cut (commonIndent t.lines.tail) l) := by
  rw [f.lines_dedent]
  have heq := f.eq
  rw [heq] at hk
  rcases Nat.lt_or_ge k f.lead.length with hlt | hge
  · rw [List.getElem?_append_left hlt] at hk
    exact absurd (f.blank_lead l (List.mem_of_getElem? hk)) hl
  · obtain ⟨j, rfl⟩ := Nat.exists_eq_add_of_le hge
    refine ⟨hge, ?_⟩
    rw [List.getElem?_append_right hge, Nat.add_sub_cancel_left] at hk
    rw [Nat.add_sub_cancel_left]
    cases j with
    | zero =>
      obtain rfl : f.first = l := by simpa using hk
      simp
    | succ j =>
      rw [List.getElem?_cons_succ] at hk
      rcases Nat.lt_or_ge j f.later.length with hlt | hge
      · rw [List.getElem?_append_left hlt] at hk
        simp [hk]
      · rw [List.getElem?_append_right hge] at hk
        exact absurd (f.blank_rest l (List.mem_of_getElem? hk)) hl

end Frame

theorem dedent_of_blank_lines {t : Text} (h : ∀ l ∈ t.lines, l.Blank) : t.dedent = [] := by
  have hblank : t.Blank := by
    rw [← unlines_lines t]
    intro c hc
    rcases mem_of_mem_intercalate hc with hc | ⟨l, hl, hc⟩
    · rw [List.mem_singleton.1 hc]
      rfl
    · exact h l hl c hc
  simpa using dedent_append_blank hblank []

def cores (ls : List Text) : List Text := (ls.map trim).filter (· ≠ [])

theorem cores_append (ls ls' : List Text) : cores (ls ++ ls') = cores ls ++ cores ls' := by
  rw [cores, List.map_append, List.filter_append, cores, cores]

theorem cores_of_blank {ls : List Text} (h : ∀ l ∈ ls, l.Blank) : cores ls = [] := by
  rw [cores, List.filter_eq_nil_iff, List.forall_mem_map]
  intro l hl
  simp [trim_of_blank (h l hl)]

theorem cores_dedent (t : Text) : cores t.dedent.lines = cores t.lines := by
  by_cases h : ∃ l ∈ t.lines, ¬ l.Blank
  · obtain ⟨f⟩ := Frame.exists_of_not_blank h
    have hlater : (f.later.map (cut (commonIndent t.lines.tail))).map trim = f.later.map trim := by
      rw [List.map_map]
      exact List.map_congr_left fun l hl =>
        (leastIndent_commonIndent _).trim_cut (f.mem_tail hl)
    have hkept : cores t.lines = cores (f.first :: f.later) := by
      conv_lhs => rw [f.eq]
      rw [cores_append, cores_of_blank f.blank_lead, List.nil_append, ← List.cons_append,
        cores_append, cores_of_blank f.blank_rest, List.append_nil]
    rw [hkept, f.lines_dedent, cores, List.map_cons, hlater, trim_trim, ← List.map_cons, cores]
  · push Not at h
    rw [dedent_of_blank_lines h, cores_of_blank h]
    rfl

theorem dedent_dedent_of_first {t first : Text} {rest : List Text} (h : t.lines = first :: rest)
    (hne : ¬ first.Blank) : t.dedent.dedent = t.dedent := by
  have hsplit : first = first.takeWhile isBlank ++ first.trimStart :=
    List.takeWhile_append_dropWhile.symm
  have hline : '\n' ∉ first.takeWhile isBlank := fun hmem =>
    not_mem_of_mem_splitOn (show first ∈ t.lines by simp [h])
      ((List.takeWhile_prefix isBlank).subset hmem)
  have ht : t = first.takeWhile isBlank ++ unlines (first.trimStart :: rest) := by
    rw [← unlines_lines t, h]
    conv_lhs => rw [hsplit]
    cases rest <;> simp [unlines_cons]
  have hhead : ∀ c ∈ (unlines (first.trimStart :: rest)).head?, isBlank c = false := by
    intro c hc
    apply head?_trimStart first
    cases hstart : first.trimStart with
    | nil => exact absurd (List.dropWhile_eq_nil_iff.1 hstart) hne
    | cons d u => rwa [hstart, unlines, List.intercalate_cons_cons_left] at hc
  have hdedent := dedent_append (blank_takeWhile first) hline (unlines (first.trimStart :: rest))
  rw [ht, hdedent, (dedented_dedent hhead).dedent_eq]

/-- Dedentation is known line by line. A text of blank lines becomes empty. Of any other text the
lines from the first to the last one that is not blank are kept: the first of them is trimmed, and
the others lose the least indentation of all lines behind the first one of the text. -/
theorem dedent_line_by_line (t : Text) :
    ((∀ l ∈ t.lines, l.Blank) ∧ t.dedent = [] ∨
      ∃ (f : Frame t.lines) (m : Nat), LeastIndent t.lines.tail m ∧
        t.dedent.lines = f.first.trim ::
          f.later.map (fun l => if l.Blank then [] else trimEnd (l.drop m)) ∧
        ∀ l ∈ f.later, ¬ l.Blank → Blank (l.take m) ∧ m ≤ l.length) ∧
    cores t.dedent.lines = cores t.lines ∧
    ((∀ l ∈ t.lines.head?, ¬ l.Blank) → t.dedent.dedent = t.dedent) := by
  refine ⟨?_, cores_dedent t, fun h => ?_⟩
  · by_cases h : ∃ l ∈ t.lines, ¬ l.Blank
    · obtain ⟨f⟩ := Frame.exists_of_not_blank h
      have hleast := leastIndent_commonIndent t.lines.tail
      refine .inr ⟨f, _, hleast, ?_, fun l hl hne => ?_⟩
      · rw [f.lines_dedent]
        refine congrArg (f.first.trim :: ·) (List.map_congr_left fun l _ => ?_)
        split
        · next hblank => exact cut_of_blank hblank _
        · rfl
      · have hle := hleast.le l (f.mem_tail hl) hne
        exact ⟨blank_take hle, hle.trans (indent_le_length l)⟩
    · push Not at h
      exact .inl ⟨h, dedent_of_blank_lines h⟩
  · obtain ⟨first, rest, hlines⟩ := List.exists_cons_of_ne_nil (List.splitOn_ne_nil '\n' t)
    exact dedent_dedent_of_first hlines (h first (by rw [lines, hlines]; rfl))

theorem dedent_line_by_line_twice :
    (∀ l ∈ (lines "a\n    b\n\n  c".toList).head?, ¬ l.Blank) ∧
      dedent "a\n    b\n\n  c".toList = "a\n  b\n\nc".toList ∧
      dedent (dedent "a\n    b\n\n  c".toList) = dedent "a\n    b\n\n  c".toList :=
  ⟨by decide, by decide, (dedent_line_by_line _).2.2 (by decide)⟩

theorem indent_trimEnd {t : Text} (h : ¬ t.Blank) : t.trimEnd.indent = t.indent := by
  obtain ⟨b, hb, e⟩ := exists_trimEnd t
  have hne : ¬ t.trimEnd.Blank := fun hblank => h (by rw [e]; exact hblank.append hb)
  conv_rhs => rw [e, indent_append hne]

theorem indent_drop {l : Text} {n : Nat} (h : n ≤ l.indent) :
    indent (l.drop n) = l.indent - n := by
  have hsplit : l.takeWhile isBlank ++ l.trimStart = l := List.takeWhile_append_dropWhile
  conv_lhs => rw [← hsplit, List.drop_append_of_le_length h, indent,
    takeWhile_append_run (blank_drop (blank_takeWhile l) n) (head?_trimStart l)]
  rw [List.length_drop, indent]

theorem LeastIndent.indent_cut {ls : List Text} {n : Nat} (h : LeastIndent ls n) {l : Text}
    (hl : l ∈ ls) (hne : ¬ l.Blank) : (cut n l).indent = l.indent - n := by
  have hdrop : ¬ Blank (l.drop n) := by
    intro hblank
    have htrim := h.trim_cut hl
    rw [cut, trimEnd_of_blank hblank] at htrim
    exact hne (blank_of_trim_eq_nil htrim.symm)
  rw [cut, indent_trimEnd hdrop, indent_drop (h.le l hl hne)]

theorem mem_tail_of_getElem? {ls : List Text} {k : Nat} {l : Text} (hk : 0 < k)
    (h : ls[k]? = some l) : l ∈ ls.tail := by
  refine List.mem_of_getElem? (i := k - 1) ?_
  rw [List.getElem?_tail, Nat.sub_add_cancel hk, h]

/-- Two lines behind the first one of a text are indented against each other as before, unless the
upper one is the first of all that is not blank, and some line is indented less than it. -/
theorem indent_dedent_sub {t : Text} {k n : Nat} {a b : Text} (hk : 0 < k) (hkn : k < n)
    (ha : t.lines[k]? = some a) (hb : t.lines[n]? = some b) (hane : ¬ a.Blank)
    (hbne : ¬ b.Blank) :
    ∃ (f : Frame t.lines) (m : Nat) (a' b' : Text), LeastIndent t.lines.tail m ∧
      f.lead.length ≤ k ∧ t.dedent.lines[k - f.lead.length]? = some a' ∧
      t.dedent.lines[n - f.lead.length]? = some b' ∧ a'.trim = a.trim ∧ b'.trim = b.trim ∧
      ((b'.indent : Int) - a'.indent = b.indent - a.indent ↔
        (k = f.lead.length → a.indent = m)) := by
  obtain ⟨f⟩ := Frame.exists_of_not_blank ⟨a, List.mem_of_getElem? ha, hane⟩
  have hleast := leastIndent_commonIndent t.lines.tail
  obtain ⟨hle, ha'⟩ := f.getElem?_dedent ha hane
  obtain ⟨-, hb'⟩ := f.getElem?_dedent hb hbne
  have hatail : a ∈ t.lines.tail := mem_tail_of_getElem? hk ha
  have hbtail : b ∈ t.lines.tail := mem_tail_of_getElem? (hk.trans hkn) hb
  rw [if_neg (by omega)] at hb'
  refine ⟨f, _, _, _, hleast, hle, ha', hb', ?_, hleast.trim_cut hbtail, ?_⟩
  · split
    · exact trim_trim a
    · exact hleast.trim_cut hatail
  · have hacut := hleast.indent_cut hatail hane
    have hbcut := hleast.indent_cut hbtail hbne
    have hale := hleast.le a hatail hane
    have hble := hleast.le b hbtail hbne
    split
    · next hfirst =>
      rw [hbcut, indent_eq_zero (tight_trim a)]
      omega
    · next hfirst =>
      rw [hacut, hbcut]
      omega

theorem indent_dedent_sub_lost :
    dedent "\n    a\n  b".toList = "a\nb".toList ∧
      ∃ (f : Frame (lines "\n    a\n  b".toList)) (m : Nat) (a' b' : Text),
        LeastIndent (lines "\n    a\n  b".toList).tail m ∧ f.lead.length ≤ 1 ∧
        (dedent "\n    a\n  b".toList).lines[1 - f.lead.length]? = some a' ∧
        (dedent "\n    a\n  b".toList).lines[2 - f.lead.length]? = some b' ∧
        a'.trim = ['a'] ∧ b'.trim = ['b'] ∧
        ((b'.indent : Int) - a'.indent = (2 : Nat) - (4 : Nat) ↔ (1 = f.lead.length → 4 = m)) :=
  ⟨by decide, @indent_dedent_sub "\n    a\n  b".toList 1 2 "    a".toList "  b".toList
    (by decide) (by decide) (by decide) (by decide) (by decide) (by decide)⟩

end DocTag.Text
