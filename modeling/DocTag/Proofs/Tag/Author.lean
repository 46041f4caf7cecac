import DocTag.Proofs.Tag.Reading
import DocTag.Proofs.Trailing

namespace DocTag.Author

open Text Reading

theorem dropNewline_of_tight {t : Text} (h : t.Tight) : dropNewline t = t := by
  unfold dropNewline
  cases hdrop : ['\n'].isSuffixOf? t with
  | none => rfl
  | some rest =>
    obtain rfl := List.isSuffixOf?_eq_some_iff_append_eq.1 hdrop
    exact absurd (h.last '\n' (by simp)) (by decide)

theorem exists_missed_iff (valid : Text → Bool) {content : Text} :
    (∃ why, read valid content = .missed why) ↔ split? (dropNewline content) = none := by
  unfold read
  simp only
  cases split? (dropNewline content) with
  | none => simp
  | some parts =>
    obtain ⟨name, email⟩ := parts
    simp only [reduceCtorEq, iff_false]
    rintro ⟨why, h⟩
    split at h <;> cases h

theorem split?_eq_none_of_respaced {t u : Text} (h : t.Respaced u) (ht : split? t = none) :
    split? u = none := by
  have hopen := bne_of_isBlank (d := '<') (by decide)
  have hclose := bne_of_isBlank (d := '>') (by decide)
  have hrest := h.dropWhile hopen
  have hhead := head?_dropWhile (p := (· != '<')) (t := t)
  unfold split? at ht ⊢
  simp only at ht ⊢
  generalize t.dropWhile (· != '<') = x at ht hrest hhead
  generalize u.dropWhile (· != '<') = y at hrest
  cases hrest with
  | nil => cases ht
  | @char c x y _ hxy =>
    simp only [ite_eq_right_iff, reduceCtorEq, imp_false] at ht ⊢
    intro hy
    have hend := (hxy.dropWhile hclose).symm
    rw [hy] at hend
    exact ht (hend.eq_of_solid (by decide)).symm
  | @gap a b _ _ ha _ hA =>
    obtain ⟨c, a, rfl⟩ := List.exists_cons_of_ne_nil ha
    have hc : (c != '<') = false := hhead c rfl
    rw [hopen c (hA c (by simp))] at hc
    cases hc

theorem trim_dropNewline (t : Text) : (dropNewline t).trim = t.trim := by
  unfold dropNewline
  cases h : ['\n'].isSuffixOf? t with
  | none => rfl
  | some rest =>
    obtain rfl := List.isSuffixOf?_eq_some_iff_append_eq.1 h
    exact (trim_append_blank rest (by decide)).symm

theorem split?_of_not_mem {t : Text} (h : '<' ∉ t) : split? t = some (t, []) := by
  have hname := bne_of_not_mem h
  have hdrop : t.dropWhile (· != '<') = [] := List.dropWhile_eq_nil_iff.2 hname
  have htake : t.takeWhile (· != '<') = t := List.takeWhile_eq_self_iff.2 hname
  simp only [split?, hdrop, htake]

theorem split?_append {name : Text} (h : '<' ∉ name) (rest : Text) :
    split? (name ++ '<' :: rest) =
      if rest.dropWhile (· != '>') = ['>'] then some (name, rest.takeWhile (· != '>'))
      else none := by
  have hname := bne_of_not_mem h
  have hhead : ∀ c ∈ ('<' :: rest).head?, (c != '<') = false := by
    rintro _ ⟨⟩
    rfl
  simp only [split?, dropWhile_append_run hname hhead, takeWhile_append_run hname hhead]

theorem read_of_split? (valid : Text → Bool) {t u name name' email email' : Text}
    (ht : split? (dropNewline t) = some (name, email))
    (hu : split? (dropNewline u) = some (name', email')) (hname : name.trim = name'.trim)
    (hemail : email.trim = email'.trim) : read valid t = read valid u := by
  simp only [read, ht, hu, hname, hemail]

theorem rel_read_of_no_address (valid : Text → Bool) {R : Author → Author → Prop}
    (hrefl : ∀ a, R a a) {body : Text} (h : '<' ∉ body) :
    Rel R (read valid body) (read valid body.trim) := by
  have htrim : '<' ∉ body.trim := fun hmem => h (mem_of_mem_trim hmem)
  have hcontent : '<' ∉ dropNewline body := by
    rwa [← mem_trim_iff (by decide), trim_dropNewline]
  have hname : (dropNewline body).trim = body.trim.trim := by
    rw [trim_dropNewline, (tight_trim body).trim_eq]
  have hread := read_of_split? valid (split?_of_not_mem hcontent)
    (by rw [dropNewline_of_tight (tight_trim body), split?_of_not_mem htrim]) hname rfl
  exact (Rel.of_eq hread).mono fun a _ e => e ▸ hrefl a

theorem split?_append_blank {b : Text} (hb : b.Blank) (hne : b ≠ []) {name : Text}
    (hname : '<' ∉ name) (rest : Text) : split? (name ++ '<' :: (rest ++ b)) = none := by
  rw [split?_append hname, if_neg]
  intro hend
  obtain ⟨b, c, rfl⟩ := (List.eq_nil_or_concat' b).resolve_left hne
  obtain ⟨u, hu⟩ := List.dropWhile_suffix (· != '>') (l := rest ++ (b ++ [c]))
  rw [hend, ← List.append_assoc] at hu
  obtain rfl := List.singleton_inj.1 (List.append_inj_right' hu rfl)
  exact absurd (by simp) (hb.not_mem (c := '>') (by decide))

theorem rel_read_of_lead (valid : Text → Bool) {R : Author → Author → Prop} (hrefl : ∀ a, R a a)
    {t u a name rest : Text} (ha : a.Blank) (hname : '<' ∉ name)
    (ht : dropNewline t = a ++ name ++ '<' :: rest) (hu : dropNewline u = name ++ '<' :: rest) :
    Rel R (read valid t) (read valid u) := by
  have hlead : '<' ∉ a ++ name := List.not_mem_append (ha.not_mem (by decide)) hname
  have hsplit := split?_append hlead rest
  have hsplit' := split?_append hname rest
  rw [← ht] at hsplit
  rw [← hu] at hsplit'
  split at hsplit
  · rename_i hend
    rw [if_pos hend] at hsplit'
    have hread := read_of_split? valid hsplit hsplit' (trim_append_of_blank ha name) rfl
    exact (Rel.of_eq hread).mono fun a _ e => e ▸ hrefl a
  · rename_i hend
    rw [if_neg hend] at hsplit'
    obtain ⟨why, hread⟩ := (exists_missed_iff valid).2 hsplit
    obtain ⟨why', hread'⟩ := (exists_missed_iff valid).2 hsplit'
    rw [hread, hread']
    exact .missed why why'

theorem rel_read_trim_iff (valid : Text → Bool) {R : Author → Author → Prop}
    (hrefl : ∀ a, R a a) (body : Text) : Rel R (read valid body) (read valid body.trim) ↔
      '<' ∉ body ∨ (∀ c ∈ (dropNewline body).getLast?, isBlank c = false) ∨
        ∃ why, read valid body.trim = .missed why := by
  have hnewline : dropNewline body.trim = body.trim := dropNewline_of_tight (tight_trim body)
  obtain ⟨a, b, ha, hb, hcontent⟩ := exists_trim (dropNewline body)
  rw [trim_dropNewline] at hcontent
  by_cases hmem : '<' ∈ body
  · have hne : body.trim ≠ [] := List.ne_nil_of_mem ((mem_trim_iff (by decide)).2 hmem)
    obtain ⟨name, rest, htrim, hname⟩ :=
      List.eq_append_cons_of_mem ((mem_trim_iff (by decide)).2 hmem)
    by_cases hend : b = []
    · rw [hend, List.append_nil] at hcontent
      refine iff_of_true ?_ (.inr (.inl ?_))
      · exact rel_read_of_lead valid hrefl ha hname
          (by rw [hcontent, htrim, List.append_assoc]) (by rw [hnewline, htrim])
      · rw [hcontent, List.getLast?_append_of_ne_nil _ hne]
        exact (tight_trim body).last
    · have hlead : '<' ∉ a ++ name := List.not_mem_append (ha.not_mem (by decide)) hname
      have hlast : ¬ ∀ c ∈ (dropNewline body).getLast?, isBlank c = false := by
        obtain ⟨b, c, rfl⟩ := (List.eq_nil_or_concat' b).resolve_left hend
        intro h
        have hc := h c (by simp [hcontent])
        rw [hb c (by simp)] at hc
        cases hc
      have hsplit : split? (dropNewline body) = none := by
        rw [hcontent, htrim]
        simpa using split?_append_blank hb hend hlead rest
      obtain ⟨why, hread⟩ := (exists_missed_iff valid).2 hsplit
      simp only [hmem, not_true, hlast, false_or, hread, Rel.missed_iff]
  · exact iff_of_true (rel_read_of_no_address valid hrefl hmem) (.inl hmem)

end DocTag.Author
