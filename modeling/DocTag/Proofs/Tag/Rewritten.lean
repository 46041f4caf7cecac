import DocTag.Proofs.Tag.Body
import DocTag.Proofs.Tag.Normal
import DocTag.Proofs.Ty.Classes

namespace DocTag

open Text

theorem head?_trailing (d : Option Text) : ∀ c ∈ (trailing d).head?, isWord c = false := by
  unfold trailing
  split
  · simp
  · simp
  · rintro _ ⟨⟩
    decide

theorem trailing_some_inj {d d' : Text} : trailing (some d) = trailing (some d') ↔ d = d' := by
  cases d <;> cases d' <;> simp [trailing]

theorem dedent_trailing (d : Text) : (trailing (some d)).dedent = d.dedent := by
  cases d with
  | nil => rfl
  | cons c d => exact dedent_append (a := [' ']) (by decide) (by decide) (c :: d)

namespace Ty

theorem mem_of_mem_render_compound {ts : List Ty} {c : Char} (h : c ∈ (compound ts).render) :
    c = '|' ∨ ∃ t ∈ ts, c ∈ t.render := by
  rw [render, renderAll_eq_map] at h
  rcases mem_of_mem_intercalate h with h | ⟨_, hp, h⟩
  · exact .inl (List.mem_singleton.1 h)
  · obtain ⟨t, ht, rfl⟩ := List.mem_map.1 hp
    exact .inr ⟨t, ht, h⟩

theorem mem_of_mem_render_array {of : Ty} {c : Char} (h : c ∈ (array of).render) :
    c ∈ of.render ∨ c ∈ ['(', ')', '[', ']'] := by
  rw [render] at h
  split at h <;> simp at h ⊢ <;> tauto

theorem not_isBlank_of_read? {s : Scope} (hs : s.Within IsNameChar) {raw : Text} {t : Ty}
    (h : read? raw = some t) (hraw : ∀ c ∈ raw, isBlank c = false) :
    ∀ c ∈ (t.qualify s).render, isBlank c = false := by
  revert hraw
  have part : ∀ {raw part}, part ∈ (Form.ofText raw).parts → (∀ c ∈ raw, isBlank c = false) →
      ∀ c ∈ part, isBlank c = false := fun hpart hraw c hc =>
    hraw c ((Form.infix_of_mem_parts hpart).subset hc)
  have brackets : ∀ c ∈ ['(', ')', '[', ']'], isBlank c = false := by decide
  refine read?_induction (motive := fun raw t => (∀ c ∈ raw, isBlank c = false) →
    ∀ c ∈ (t.qualify s).render, isBlank c = false) ?_ ?_ ?_ ?_ ?_ h
  · intro raw members ts hform ih hraw c hc
    have hmembers : ∀ p ∈ members, ∀ c ∈ p, isBlank c = false := fun p hp =>
      part (by rwa [hform]) hraw
    have hts : ∀ t ∈ ts, ∀ c ∈ (t.qualify s).render, isBlank c = false := by
      clear hform hc
      induction ih with
      | nil => simp
      | cons hp _ ihs =>
        rw [List.forall_mem_cons] at hmembers ⊢
        exact ⟨hp hmembers.1, ihs hmembers.2⟩
    rw [qualify, qualifyAll_eq_map] at hc
    rcases mem_of_mem_render_compound hc with rfl | ⟨u, hu, hc⟩
    · decide
    · obtain ⟨t, ht, rfl⟩ := List.mem_map.1 hu
      exact hts t ht c hc
  · intro raw of t hform ih hraw c hc
    rcases List.mem_cons.1 hc with rfl | hc
    · decide
    · exact ih (part (by simp [hform, Form.parts]) hraw) c hc
  · intro raw of t hform ih hraw c hc
    rcases mem_of_mem_render_array hc with hc | hc
    · exact ih (part (by simp [hform, Form.parts]) hraw) c hc
    · exact brackets c hc
  · intro raw inner t hform ih hraw
    exact ih (part (by simp [hform, Form.parts]) hraw)
  · intro raw u hform hraw c hc
    have hu : ∀ c ∈ u, isBlank c = false := by
      have hhas := Form.has_ofText raw
      rw [hform] at hhas
      generalize htrim : raw.trim = trimmed at hhas
      cases hhas
      exact fun c hc => hraw c (mem_of_mem_trim (htrim ▸ hc))
    rcases (Written.name hs u).mem c hc with hc | hc
    · exact hu c hc
    · exact (isPlain_of_isNameChar hc).1

theorem not_isBlank_of_resolve {s : Scope} (hs : s.Within IsNameChar) {raw : Text} {t : Ty}
    (h : resolve s raw = .ok t) (hraw : ∀ c ∈ raw, isBlank c = false) :
    ∀ c ∈ t.render, isBlank c = false := by
  obtain ⟨u, hread, rfl⟩ := resolve_eq_ok.1 h
  exact not_isBlank_of_read? hs hread hraw

end Ty

namespace Parameter

theorem readMarked_description {s : Scope} {leading : Bool} {t : Text} {p : Parameter}
    (h : readMarked s leading t = .found p) : ∃ rest : Text, p.description = some rest.dedent := by
  unfold readMarked at h
  split at h
  · cases h
  · split at h
    · cases h
    · split at h
      · cases h
      · rename_i v hv
        obtain rfl := Reading.found.inj h
        exact ⟨v.rest, rfl⟩

theorem read_description {s : Scope} {fragment : Text} {p : Parameter}
    (h : read s fragment = .found p) : ∃ rest : Text, p.description = some rest.dedent := by
  unfold read at h
  split at h <;> exact readMarked_description h

structure Sound (p : Parameter) : Prop where
  name_ne_nil : p.name ≠ []
  name_word : ∀ c ∈ p.name, isWord c = true
  type_solid : ∀ c ∈ p.type.render, isBlank c = false
  type_opening : Ty.Opening p.type.render
  type_restores : ∃ u, Ty.Restores p.type.render u
  description : ∃ d : Text, p.description = some d ∧ d.Tight

theorem sound_of_read {s : Scope} (hs : s.Within IsNameChar) {fragment : Text} {p : Parameter}
    (h : read s fragment = .found p) : p.Sound := by
  obtain ⟨hne, hname, word, hword, hresolve⟩ := read_eq_found h
  obtain ⟨rest, hrest⟩ := read_description h
  exact
    { name_ne_nil := hne
      name_word := hname
      type_solid := Ty.not_isBlank_of_resolve hs hresolve hword.not_isBlank
      type_opening := (Ty.wellFormed_of_resolve hresolve).opening
      type_restores :=
        Ty.exists_restores_of_resolve (hs.mono fun _ => isPlain_of_isNameChar) hresolve
      description := ⟨_, hrest, tight_dedent rest⟩ }

namespace Sound

variable {p : Parameter}

theorem tight_render (h : p.Sound) : p.render.Tight := by
  obtain ⟨d, hd, htight⟩ := h.description
  rw [render_eq]
  refine ⟨?_, ?_⟩
  · intro c hc
    rw [List.head?_append_of_ne_nil _ h.type_opening.ne_nil] at hc
    exact h.type_solid c (List.mem_of_head? hc)
  · intro c hc
    rw [List.getLast?_append_of_ne_nil _ (by simp), List.getLast?_append_of_ne_nil _ (by simp),
      List.getLast?_append_of_ne_nil _ (by simp),
      List.getLast?_cons_of_ne_nil (by simp [h.name_ne_nil]), hd] at hc
    cases d with
    | nil =>
      rw [trailing, List.append_nil] at hc
      exact not_isBlank_of_isWord (h.name_word c (List.mem_of_getLast? hc))
    | cons e d =>
      rw [show trailing (some (e :: d)) = ' ' :: e :: d from rfl,
        List.getLast?_append_of_ne_nil _ (by simp), List.getLast?_cons_of_ne_nil (by simp)] at hc
      exact htight.last c hc

theorem read_render_receiver (h : p.Sound) (hhead : p.type.render.head? = some '$') (s : Scope) :
    ∃ p', read s p.render = .found p' ∧ p'.type = .mixed := by
  have htight := h.tight_render
  obtain ⟨rest, hrest, hrender⟩ : ∃ rest : Text, (∀ c ∈ rest.head?, isWord c = false) ∧
      p.render = marks false false ++ '$' :: ("this".toList ++ rest) := by
    obtain ⟨rest, hrest, hthis⟩ := h.type_opening.exists_receiver hhead
    refine ⟨rest ++ ([' '] ++ (marks p.byReference p.variadic ++
      '$' :: (p.name ++ trailing p.description))), ?_, ?_⟩
    · cases rest with
      | nil =>
        rintro _ ⟨⟩
        decide
      | cons c rest => exact hrest
    · rw [render_eq, hthis]
      simp [marks]
  rw [hrender] at htight ⊢
  refine ⟨_, (read_of_no_ellipsis htight ?_).trans
    (readMarked_untyped false (by decide) (by decide) hrest), rfl⟩
  simp [marks, ellipsis]

theorem read_render_typed (h : p.Sound) (hhead : p.type.render.head? ≠ some '$') {u : Ty} {d : Text}
    (hu : Ty.Restores p.type.render u) (hd : p.description = some d) (s : Scope) :
    read s p.render = .found { p with type := u, description := some d.dedent } := by
  have hlead := h.type_opening.not_variableLead hhead
  have hgap : Blank [' '] := by decide
  have hdots : ¬ ellipsis <+: p.render := by
    rw [render_eq]
    exact fun hdots => hlead ellipsis (by decide)
      (prefix_of_prefix_append (by decide) (hgap.head?_append (by simp) _) hdots)
  rw [read_of_no_ellipsis h.tight_render hdots, render_eq,
    readMarked_typed false h.type_opening.ne_nil h.type_solid hlead (by simp) hgap h.name_ne_nil
      h.name_word (head?_trailing _) (hu.resolve s), hd, dedent_trailing]
  rfl

end Sound

/-- The written form of a recognised parameter is recognised in every scope. It is the same text
    once more exactly if the type is not taken for a variable and the description stays as it is on
    the line of the variable. -/
theorem recognise_written {s : Scope} (hs : s.Within IsNameChar) (s' : Scope) {body : Text}
    {p : Parameter} (h : recognise {} s (some body) = .found p) :
    ∃ p', recognise {} s' (some p.render) = .found p' ∧
      (p'.render = p.render ↔
        p.type.render.head? ≠ some '$' ∧ ∀ d ∈ p.description, d.dedent = d) := by
  have hbody : body ≠ [] := by
    rintro rfl
    cases h
  rw [recognise, Equipment.reading_text hbody] at h
  have hp := sound_of_read hs h
  rw [recognise, Equipment.reading_text p.render_ne_nil]
  by_cases hhead : p.type.render.head? = some '$'
  · obtain ⟨p', hread, htype⟩ := hp.read_render_receiver hhead s'
    refine ⟨p', hread, fun e => ?_, fun hgood => absurd hhead hgood.1⟩
    have hmixed : p'.render.head? = some 'm' := by
      rw [render_eq, htype]
      rfl
    rw [e, render_eq, List.head?_append_of_ne_nil _ hp.type_opening.ne_nil, hhead] at hmixed
    cases hmixed
  · obtain ⟨u, hu⟩ := hp.type_restores
    obtain ⟨d, hd, -⟩ := hp.description
    refine ⟨_, hp.read_render_typed hhead hu hd s', ?_⟩
    rw [render_eq, render_eq, hu.render, hd]
    simp [hhead, trailing_some_inj]

/-- The receiver is a type in parentheses, and a variable without them. A line that is indented
    below the first one of a description is not once that one is the line of the variable. -/
theorem recognise_written_changed :
    let this : Parameter := { name := "x".toList, type := .this, description := some [] }
    let list : Parameter := { name := "x".toList, description := some "foo\n  bar".toList }
    (recognise {} {} (some "($this) $x".toList) = .found this ∧ this.render = "$this $x".toList ∧
      ∃ p', recognise {} {} (some this.render) = .found p' ∧ p'.render ≠ this.render) ∧
    recognise {} {} (some "$x\n  foo\n    bar".toList) = .found list ∧
      list.render = "mixed $x foo\n  bar".toList ∧
      ∃ p', recognise {} {} (some list.render) = .found p' ∧ p'.render ≠ list.render := by
  intro this list
  have hs := Scope.within_default IsNameChar
  have hthis : recognise {} {} (some "($this) $x".toList) = .found this := by
    let head : Head :=
      { word := "($this)".toList, gap := [' '], word_ne_nil := by decide
        word_solid := by decide, word_lead := by decide, gap_ne_nil := by decide
        gap_blank := by decide }
    let b : Body :=
      { before := [], leading := none, head := some head, byReference := false, variadic := false
        name := "x".toList, remark := none, after := [], before_blank := blank_nil
        leading_blank := by simp, name_ne_nil := by decide, name_word := by decide
        after_blank := blank_nil }
    have htype : b.Resolves {} .this := Ty.resolve_eq_ok.2 ⟨.this, by decide +kernel, rfl⟩
    exact (Equipment.reading_text (by decide)).trans (b.read_text htype)
  have hlist : recognise {} {} (some "$x\n  foo\n    bar".toList) = .found list := rfl
  obtain ⟨p, hp, hthis'⟩ := recognise_written hs {} hthis
  obtain ⟨q, hq, hlist'⟩ := recognise_written hs {} hlist
  refine ⟨⟨hthis, by decide, p, hp, fun e => (hthis'.1 e).1 rfl⟩, hlist, by decide, q, hq, ?_⟩
  intro e
  exact absurd ((hlist'.1 e).2 _ rfl) (by decide +kernel)

end Parameter

end DocTag
