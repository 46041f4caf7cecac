import DocTag.Proofs.Respaced
import DocTag.Text.Word

namespace DocTag.Text

variable {b : Text}

theorem takeWhile_append_of_head {p : Char → Bool} {u : Text} (hu : ∀ c ∈ u.head?, p c = false)
    (t : Text) : (t ++ u).takeWhile p = t.takeWhile p := by
  rw [List.takeWhile_append, takeWhile_eq_nil hu, List.append_nil]
  split
  · rename_i h
    exact ((List.takeWhile_prefix p).eq_of_length h).symm
  · rfl

theorem dropWhile_append_of_head {p : Char → Bool} {u : Text} (hu : ∀ c ∈ u.head?, p c = false)
    (t : Text) : (t ++ u).dropWhile p = t.dropWhile p ++ u := by
  rw [List.dropWhile_append, dropWhile_eq_self hu]
  split
  · rename_i h
    rw [List.isEmpty_iff.1 h, List.nil_append]
  · rfl

theorem trimEnd_append_cons {c : Char} (hc : isBlank c = false) (t u : Text) :
    trimEnd (t ++ c :: u) = t ++ c :: trimEnd u := by
  have hhead : ∀ d ∈ (c :: t.reverse).head?, isBlank d = false := by
    rintro _ ⟨⟩
    exact hc
  rw [trimEnd, List.reverse_append, List.reverse_cons, List.append_assoc, List.singleton_append,
    dropWhile_append_of_head hhead]
  simp [trimEnd]

theorem trimStart_append_cons {c : Char} (hc : isBlank c = false) (t u : Text) :
    trimStart (t ++ c :: u) = trimStart t ++ c :: u :=
  dropWhile_append_of_head (by rintro _ ⟨⟩; exact hc) t

@[simp] theorem trim_trim (t : Text) : t.trim.trim = t.trim := (tight_trim t).trim_eq

@[simp] theorem trim_trimStart (t : Text) : t.trimStart.trim = t.trim := by
  rw [trim, trim, trimStart_eq_self (head?_trimStart t)]

@[simp] theorem trim_trimEnd (t : Text) : t.trimEnd.trim = t.trim := by
  obtain ⟨b, hb, e⟩ := exists_trimEnd t
  conv_rhs => rw [e, trim_append_blank _ hb]

theorem head?_trim (t : Text) : t.trim.head? = t.trimStart.head? := by
  cases h : t.trimStart with
  | nil => rw [trim, h]; rfl
  | cons c rest =>
    have hc : isBlank c = false := head?_trimStart t c (by rw [h]; rfl)
    rw [trim, h, ← List.nil_append (c :: rest), trimEnd_append_cons hc]
    rfl

theorem trimStart_of_blank {t : Text} (h : t.Blank) : t.trimStart = [] :=
  List.dropWhile_eq_nil_iff.2 h

theorem trimStart_append_of_not_blank {t : Text} (h : ¬ t.Blank) (u : Text) :
    (t ++ u).trimStart = t.trimStart ++ u := by
  have hne : t.dropWhile isBlank ≠ [] := fun e => h (List.dropWhile_eq_nil_iff.1 e)
  rw [trimStart, List.dropWhile_append, if_neg (by simpa using hne), trimStart]

theorem trimStart_append_blank (hb : b.Blank) (t : Text) :
    t.trimStart = [] ∧ (t ++ b).trimStart = [] ∨
      t.trimStart ≠ [] ∧ (t ++ b).trimStart = t.trimStart ++ b := by
  by_cases h : t.Blank
  · exact .inl ⟨trimStart_of_blank h, trimStart_of_blank (h.append hb)⟩
  · exact .inr ⟨fun e => h (List.dropWhile_eq_nil_iff.1 e), trimStart_append_of_not_blank h b⟩

theorem isPrefixOf?_append_blank {lead : Text} (hlead : ∀ c ∈ lead, isBlank c = false)
    (hb : b.Blank) (t : Text) : lead.isPrefixOf? (t ++ b) = (lead.isPrefixOf? t).map (· ++ b) := by
  induction lead generalizing t with
  | nil => rfl
  | cons l lead ih =>
    rw [List.forall_mem_cons] at hlead
    cases t with
    | nil =>
      cases b with
      | nil => rfl
      | cons c b =>
        have hne : l ≠ c := by
          rintro rfl
          rw [hb l (by simp)] at hlead
          cases hlead.1
        simp [List.isPrefixOf?, hne]
    | cons c t =>
      by_cases h : l = c
      · simpa [List.isPrefixOf?, h] using ih hlead.2 t
      · simp [List.isPrefixOf?, h]

theorem indent_append {l : Text} (h : ¬ l.Blank) (u : Text) : (l ++ u).indent = l.indent := by
  have hne : (l.takeWhile isBlank).length ≠ l.length := fun e =>
    h fun c hc => List.mem_takeWhile_imp ((List.takeWhile_prefix isBlank).eq_of_length e ▸ hc)
  rw [indent, List.takeWhile_append, if_neg hne, indent]

theorem trimEnd_drop_append_blank (hb : b.Blank) (l : Text) (n : Nat) :
    trimEnd ((l ++ b).drop n) = trimEnd (l.drop n) := by
  rw [List.drop_append]
  exact trimEnd_append_blank _ (blank_drop hb _)

theorem commonIndent_append_blank (hb : b.Blank) (ls : List Text) (l : Text) :
    commonIndent (ls ++ [l ++ b]) = commonIndent (ls ++ [l]) := by
  by_cases h : l.Blank
  · simp [commonIndent, trim_of_blank h, trim_of_blank (h.append hb)]
  · have hne : l.trim ≠ [] := fun e => h (blank_of_trim_eq_nil e)
    simp [commonIndent, trim_append_blank l hb, indent_append h, hne]

theorem lines_append_newline_nil (t : Text) : (t ++ ['\n']).lines = t.lines ++ [[]] :=
  List.splitOn_append_cons_self t []

theorem lines_append_char {c : Char} (hc : c ≠ '\n') {t l : Text} {ls : List Text}
    (h : t.lines = ls ++ [l]) : (t ++ [c]).lines = ls ++ [l ++ [c]] := by
  have hline : ∀ l' ∈ ls ++ [l], '\n' ∉ l' := fun l' hl =>
    not_mem_of_mem_splitOn (show l' ∈ t.lines from h ▸ hl)
  have hjoin : t ++ [c] = unlines (ls ++ [l ++ [c]]) := by
    rw [← unlines_lines t, h]
    cases ls with
    | nil => simp
    | cons first ls => rw [unlines_append_singleton (by simp), unlines_append_singleton (by simp),
        List.append_assoc, List.cons_append]
  rw [hjoin]
  refine lines_unlines (by simp) ?_
  intro l' hl
  rcases List.mem_append.1 hl with hl | hl
  · exact hline l' (by simp [hl])
  · rw [List.mem_singleton.1 hl, List.mem_append, not_or]
    exact ⟨hline l (by simp), by simpa using Ne.symm hc⟩

theorem dedent_of_lines {t first : Text} {rest : List Text} (h : t.lines = first :: rest) :
    t.dedent =
      (unlines (first.trim :: rest.map fun l => trimEnd (l.drop (commonIndent rest)))).trim := by
  cases rest with
  | nil =>
    simp only [dedent, h, List.map_nil, unlines_singleton]
    exact (tight_trim first).trim_eq.symm
  | cons => simp only [dedent, h]

theorem dedent_append_newline_nil (t : Text) : (t ++ ['\n']).dedent = t.dedent := by
  obtain ⟨first, rest, hlines⟩ := List.exists_cons_of_ne_nil (List.splitOn_ne_nil '\n' t)
  have hlines : t.lines = first :: rest := hlines
  have hmore : (t ++ ['\n']).lines = first :: (rest ++ [[]]) := by
    rw [lines_append_newline_nil, hlines, List.cons_append]
  have hlevel : commonIndent (rest ++ [[]]) = commonIndent rest := commonIndent_append_nil rest 1
  have hnil : trimEnd (List.drop (commonIndent rest) []) = [] := by simp [trimEnd]
  rw [dedent_of_lines hmore, dedent_of_lines hlines, hlevel, List.map_append, List.map_singleton,
    hnil, ← List.cons_append, unlines_append_singleton (by simp)]
  exact trim_append_blank _ (by decide)

theorem dedent_append_char {c : Char} (hc : c ≠ '\n') (hblank : isBlank c = true) (t : Text) :
    (t ++ [c]).dedent = t.dedent := by
  have hb : Blank [c] := by simpa [Blank]
  have hne : t.lines ≠ [] := List.splitOn_ne_nil '\n' t
  obtain ⟨ls, l, hlines⟩ := (List.eq_nil_or_concat' t.lines).resolve_left hne
  have hmore := lines_append_char hc hlines
  cases ls with
  | nil => rw [dedent_of_lines hmore, dedent_of_lines hlines, trim_append_blank l hb]
  | cons first ls =>
    rw [List.cons_append] at hmore hlines
    rw [dedent_of_lines hmore, dedent_of_lines hlines, commonIndent_append_blank hb,
      List.map_append, List.map_append, List.map_singleton, List.map_singleton,
      trimEnd_drop_append_blank hb]

theorem dedent_append_blank (hb : b.Blank) (t : Text) : (t ++ b).dedent = t.dedent := by
  induction b generalizing t with
  | nil => rw [List.append_nil]
  | cons c b ih =>
    obtain ⟨hc, hb⟩ := blank_cons.1 hb
    rw [List.append_cons, ih hb]
    by_cases h : c = '\n'
    · rw [h, dedent_append_newline_nil]
    · exact dedent_append_char h hc t

theorem mem_trim_iff {c : Char} (hc : isBlank c = false) {t : Text} : c ∈ t.trim ↔ c ∈ t := by
  obtain ⟨a, b, ha, hb, e⟩ := exists_trim t
  conv_rhs => rw [e]
  simp [ha.not_mem hc, hb.not_mem hc]

def weight (t : Text) : Nat := t.countP (!isBlank ·)

@[simp] theorem weight_append (t u : Text) : weight (t ++ u) = t.weight + u.weight :=
  List.countP_append

theorem Blank.weight_eq {t : Text} (h : t.Blank) : t.weight = 0 :=
  List.countP_eq_zero.2 fun c hc => by simp [h c hc]

theorem weight_pos {t : Text} {c : Char} (hmem : c ∈ t) (hc : isBlank c = false) : 0 < t.weight :=
  List.countP_pos_iff.2 ⟨c, hmem, by simpa using hc⟩

theorem weight_mono {t u : Text} (h : t <:+: u) : t.weight ≤ u.weight :=
  h.sublist.countP_le

theorem Respaced.weight_eq {t u : Text} (h : Respaced t u) : t.weight = u.weight := by
  induction h with
  | nil => rfl
  | char _ _ ih => simp only [weight, List.countP_cons] at ih ⊢; rw [ih]
  | gap _ _ hA hB _ ih => rw [weight_append, weight_append, hA.weight_eq, hB.weight_eq, ih]

@[simp] theorem weight_trimStart (t : Text) : t.trimStart.weight = t.weight := by
  have hsplit : t = t.takeWhile isBlank ++ t.trimStart := List.takeWhile_append_dropWhile.symm
  conv_rhs => rw [hsplit]
  rw [weight_append, (blank_takeWhile t).weight_eq, Nat.zero_add]

@[simp] theorem weight_dedent (t : Text) : t.dedent.weight = t.weight := by
  obtain ⟨a, b, ha, hb, e⟩ := exists_trim t
  conv_rhs => rw [e]
  rw [weight_append, weight_append, ha.weight_eq, hb.weight_eq, (respaced_dedent t).weight_eq]
  simp

end DocTag.Text
