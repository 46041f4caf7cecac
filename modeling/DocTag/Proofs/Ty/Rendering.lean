import DocTag.Proofs.Ty.Settled

namespace DocTag

def isTypeMark (c : Char) : Bool :=
  ['|', '?', '[', ']', '(', ')', '<', '>', '\x7b', '\x7d'].contains c

def IsPlain (c : Char) : Prop := isBlank c = false ∧ isTypeMark c = false

instance : DecidablePred IsPlain := fun c =>
  inferInstanceAs (Decidable (isBlank c = false ∧ isTypeMark c = false))

theorem isUncased_of_isTypeMark {c : Char} (h : isTypeMark c = true) : isUncased c = true := by
  have table : ∀ d ∈ ['|', '?', '[', ']', '(', ')', '<', '>', '\x7b', '\x7d'],
      isUncased d = true := by decide
  exact table c (by simpa [isTypeMark] using h)

theorem bracketStep_of_not_isTypeMark {c : Char} (h : isTypeMark c = false) :
    bracketStep c = 0 := by
  simp only [isTypeMark, List.contains_cons, List.contains_nil, Bool.or_false, Bool.or_eq_false_iff,
    beq_eq_false_iff_ne] at h
  simp [bracketStep, h]

namespace Keyword

theorem mem_spellings {t : Text} {k : Keyword} (h : ofText? t = some k) :
    (t.lower, k) ∈ spellings := by
  obtain ⟨before, after, e, -⟩ := List.lookup_eq_some_iff.1 h
  rw [e]
  simp

theorem not_mem_of_ofText? {t : Text} {k : Keyword} (h : ofText? t = some k) {c : Char}
    (hc : isUncased c) : c ∉ t := by
  have table : ∀ pair ∈ spellings, ∀ c ∈ pair.1, c.isAlpha := by decide
  intro hmem
  have halpha := table _ (mem_spellings h) c ((Text.mem_lower_iff hc t).2 hmem)
  simp [isUncased, halpha] at hc

theorem ofText?_full (rest : Text) : ofText? ('\\' :: rest) = none := by
  cases h : ofText? ('\\' :: rest) with
  | none => rfl
  | some k => exact absurd List.mem_cons_self (not_mem_of_ofText? h (c := '\\') (by decide))

@[simp] theorem ofText?_name (k : Keyword) : ofText? k.name = some k := by
  cases k <;> decide +kernel

theorem isAlpha_of_mem_name {k : Keyword} {c : Char} (h : c ∈ k.name) : c.isAlpha := by
  have table : ∀ c ∈ k.name, c.isAlpha := by cases k <;> decide
  exact table c h

end Keyword

namespace Ty

open Text

theorem atom_full (rest : Text) : atom ('\\' :: rest) = .object ('\\' :: rest) := by
  have hthis : '\\' :: rest ≠ "$this".toList := by
    intro h
    exact absurd (congrArg List.head? h) (by simp)
  simp only [atom, if_neg hthis, Keyword.ofText?_full]

theorem atom_name (k : Keyword) : atom k.name = .keyword k := by
  have hthis : k.name ≠ "$this".toList := by cases k <;> decide
  simp only [atom, if_neg hthis, Keyword.ofText?_name]

theorem Form.has_name {t : Text} (hne : t ≠ []) (h : ∀ c ∈ t, isTypeMark c = false) :
    Form.Has t (.name t) := by
  have mark : ∀ {c}, isTypeMark c = true → c ∉ t := by
    intro c hc hmem
    rw [h c hmem] at hc
    cases hc
  refine .name (not_barAt_of_not_mem (mark (by decide))) hne ?_ ?_ ?_
  · intro e
    exact mark (c := '?') (by decide) (List.mem_of_head? e)
  · rintro u rfl
    exact mark (c := '[') (by decide) (by simp)
  · rw [unwrap?_eq_none]
    rintro u rfl
    exact mark (c := '(') (by decide) (by simp)

theorem Form.Has.of_full {t : Text} (h : ¬ BarAt 0 ('\\' :: t))
    (htail : ∀ u, '\\' :: t ≠ u ++ ['[', ']']) : Form.Has ('\\' :: t) (.name ('\\' :: t)) := by
  refine .name h (by simp) (by simp) htail ?_
  rw [unwrap?_eq_none]
  intro u e
  simp at e

section Replaces

variable {name full : Text} (h : Scope.Replaces IsPlain name full)
include h

theorem depth_of_replaces : full.depth = name.depth := by
  cases h with
  | @intro lead head rest hlead hhead =>
    have hl : lead.depth = 0 := by
      apply depth_of_forall
      intro c hc
      rcases hlead c hc with rfl | hp
      · decide
      · exact bracketStep_of_not_isTypeMark hp.2
    have hh : head.depth = 0 := by
      apply depth_of_forall
      intro c hc
      cases hm : isTypeMark c with
      | false => exact bracketStep_of_not_isTypeMark hm
      | true =>
        have := (hhead c hc (isUncased_of_isTypeMark hm)).2
        rw [hm] at this
        cases this
    rw [depth_append, depth_append, hl, hh]

theorem barAt_of_replaces {d : Int} : full.BarAt d ↔ name.BarAt d := by
  have hdepth := depth_of_replaces h
  cases h with
  | @intro lead head rest hlead hhead =>
    have hl : '|' ∉ lead := by
      intro hc
      exact (hlead _ hc).elim (by decide) fun hp => absurd hp.2 (by decide)
    have hh : '|' ∉ head := fun hc => absurd (hhead _ hc (by decide)).2 (by decide)
    rw [depth_append, depth_append] at hdepth
    rw [barAt_append, barAt_append, show lead.depth = head.depth by omega]
    simp only [not_barAt_of_not_mem hl, not_barAt_of_not_mem hh]

theorem eq_append_of_replaces {u : Text} (hfull : full = u ++ ['[', ']']) :
    ∃ v, name = v ++ ['[', ']'] := by
  -- Brackets at the end of the full name were there before.
  cases h with
  | @intro lead head rest hlead =>
    have hbracket : '[' ∉ lead := by
      intro hc
      exact (hlead _ hc).elim (by decide) fun hp => absurd hp.2 (by decide)
    rcases List.append_eq_append_iff.1 hfull with ⟨v, rfl, rfl⟩ | ⟨v, rfl, e⟩
    · exact ⟨head ++ v, by simp⟩
    · cases v with
      | nil => exact ⟨head, by simpa using e.symm⟩
      | cons c v =>
        rw [List.cons_append, List.cons.injEq] at e
        simp [← e.1] at hbracket

theorem getLast?_of_replaces (hname : name.Tight) :
    ∀ c ∈ full.getLast?, isBlank c = false := by
  cases h with
  | @intro lead head rest hlead =>
    intro c hc
    cases rest with
    | nil =>
      rw [List.append_nil] at hc
      rcases hlead c (List.mem_of_getLast? hc) with rfl | hp
      · decide
      · exact hp.1
    | cons d rest =>
      rw [List.getLast?_append_of_ne_nil _ (by simp)] at hc
      apply hname.last
      rwa [List.getLast?_append_of_ne_nil _ (by simp)]

end Replaces

structure Names (t : Text) (u : Ty) : Prop where
  tight : t.Tight
  form : Form.Has t (.name t)
  atom : atom t = u
  render : u.render = t
  qualify : ∀ s, u.qualify s = u

namespace Names

theorem piece {t : Text} {u : Ty} (h : Names t u) : Piece t := by
  refine .atom h.tight h.form ?_ ?_
  · rw [h.atom, h.render]
  · rw [h.atom]
    exact h.qualify

theorem restores {t : Text} {u : Ty} (h : Names t u) : Restores t u := by
  refine ⟨?_, h.render, h.qualify⟩
  rw [read?_eq, h.form.ofText_eq h.tight, ← h.atom]

theorem keyword (k : Keyword) : Names k.name (.keyword k) := by
  have hmark : ∀ c ∈ k.name, isTypeMark c = false := by cases k <;> decide
  have hblank : ∀ c ∈ k.name, isBlank c = false := by cases k <;> decide
  have hne : k.name ≠ [] := by cases k <;> decide
  exact ⟨tight_of_forall hblank, Form.has_name hne hmark, atom_name k, rfl, fun _ => rfl⟩

theorem this : Names "$this".toList .this :=
  ⟨tight_of_forall (by decide), Form.has_name (by decide) (by decide), if_pos rfl, rfl,
    fun _ => rfl⟩

theorem full {t : Text} (htight : Text.Tight ('\\' :: t)) (hbar : ¬ BarAt 0 ('\\' :: t))
    (htail : ∀ u, '\\' :: t ≠ u ++ ['[', ']']) : Names ('\\' :: t) (.object ('\\' :: t)) :=
  ⟨htight, .of_full hbar htail, atom_full t, rfl, fun _ => rfl⟩

theorem of_atom {s : Scope} (hs : s.Within IsPlain) {u : Text} (htight : u.Tight)
    (hform : Form.Has u (.name u)) :
    Names ((Ty.atom u).qualify s).render ((Ty.atom u).qualify s) := by
  unfold Ty.atom
  split
  · exact this
  · cases Keyword.ofText? u with
    | some k => exact keyword k
    | none =>
      have hrep := hs.replaces u
      obtain ⟨rest, hfull⟩ := s.exists_qualify_eq u
      have hobject : Ty.qualify s (.object u) = .object ('\\' :: rest) := congrArg Ty.object hfull
      rw [hfull] at hrep
      rw [hobject]
      cases hform with
      | name hbar _ _ htail =>
        refine full ⟨by rintro _ ⟨⟩; rfl, getLast?_of_replaces hrep htight⟩ ?_ ?_
        · rwa [barAt_of_replaces hrep]
        · intro v e
          obtain ⟨w, hw⟩ := eq_append_of_replaces hrep e
          exact htail w hw

end Names

theorem Keeps.of_piece {raw : Text} {t : Ty} (hpiece : Piece t.render)
    (hcompound : t.isCompound = false) (hlevel : t.render.depth = raw.depth)
    (hbar : ∀ d, t.render.BarAt d → raw.BarAt d) : Keeps raw t where
  level := hlevel
  pieces := ⟨_, .single hpiece, List.intercalate_singleton, by simp [hcompound]⟩
  clear _ _ hraw d h0 h1 hb := hraw d h0 h1 (hbar d hb)
  deeper := by simp [hcompound]

theorem Keeps.name {s : Scope} (hs : s.Within IsPlain) {u : Text} (htight : u.Tight)
    (hform : Form.Has u (.name u)) : Keeps u ((atom u).qualify s) := by
  suffices h : ((atom u).qualify s).isCompound = false ∧
      ((atom u).qualify s).render.depth = u.depth ∧
      ∀ d, ((atom u).qualify s).render.BarAt d → u.BarAt d from
    .of_piece (Names.of_atom hs htight hform).piece h.1 h.2.1 h.2.2
  unfold atom
  split
  · rename_i hu
    rw [hu]
    exact ⟨rfl, rfl, fun _ h => h⟩
  · cases hk : Keyword.ofText? u with
    | some k =>
      have hno : ∀ {c}, isUncased c = true → c ∉ k.name := by
        intro c hc hmem
        have := Keyword.isAlpha_of_mem_name hmem
        simp [isUncased, this] at hc
      refine ⟨rfl, ?_, ?_⟩
      · have hu : u.depth = 0 := by
          apply depth_of_forall
          intro c hc
          cases hm : isTypeMark c with
          | false => exact bracketStep_of_not_isTypeMark hm
          | true => exact absurd hc (Keyword.not_mem_of_ofText? hk (isUncased_of_isTypeMark hm))
        rw [hu]
        cases k <;> rfl
      · intro d hb
        exact absurd hb (not_barAt_of_not_mem (hno (by decide)))
    | none =>
      have hrep := hs.replaces u
      exact ⟨rfl, depth_of_replaces hrep, fun d => (barAt_of_replaces hrep).1⟩

theorem keeps_of_read? {s : Scope} (hs : s.Within IsPlain) {raw : Text} {t : Ty}
    (h : read? raw = some t) : Keeps raw (t.qualify s) := by
  refine read?_induction (motive := fun raw t => Keeps raw (t.qualify s)) ?_ ?_ ?_ ?_ ?_ h
  · intro raw members ts hform ih
    apply Keeps.of_trim
    have hhas := Form.has_ofText raw
    rw [hform] at hhas
    rw [qualify, qualifyAll_eq_map]
    generalize raw.trim = trimmed at hhas
    cases hhas with
    | union hsplit => exact .union hsplit (List.forall₂_map_right_iff.2 ih)
  · intro raw of t hform ih
    apply Keeps.of_trim
    have hhas := Form.has_ofText raw
    rw [hform] at hhas
    generalize raw.trim = trimmed at hhas
    cases hhas with
    | nullable => exact ih.nullable
  · intro raw of t hform ih
    apply Keeps.of_trim
    have hhas := Form.has_ofText raw
    rw [hform] at hhas
    exact .array hhas ih
  · intro raw inner t hform ih
    apply Keeps.of_trim
    have hhas := Form.has_ofText raw
    rw [hform] at hhas
    generalize raw.trim = trimmed at hhas
    cases hhas with
    | group hbar => exact ih.group hbar
  · intro raw u hform
    apply Keeps.of_trim
    have hhas := Form.has_ofText raw
    have htight := tight_trim raw
    rw [hform] at hhas
    generalize raw.trim = trimmed at hhas htight
    cases hhas with
    | name h0 h1 h2 h3 h4 => exact .name hs htight (.name h0 h1 h2 h3 h4)

theorem exists_restores_of_resolve {s : Scope} (hs : s.Within IsPlain) {raw : Text} {t : Ty}
    (h : resolve s raw = .ok t) : ∃ u, Restores t.render u := by
  obtain ⟨v, hread, rfl⟩ := resolve_eq_ok.1 h
  obtain ⟨ps, hps, hjoin, -⟩ := (keeps_of_read? hs hread).pieces
  rw [← hjoin]
  exact hps.exists_restores

theorem Restores.resolve {t : Text} {u : Ty} (h : Restores t u) (s : Scope) :
    resolve s t = .ok u := resolve_eq_ok.2 ⟨u, h.read, h.qualify s⟩

/-- The written form of a resolved type is a fixed point of reading and writing, in every scope. -/
theorem resolve_render_eq {s : Scope} (hs : s.Within IsPlain) (s' : Scope) {raw : Text} {t : Ty}
    (h : resolve s raw = .ok t) :
    ∃ u, resolve s' t.render = .ok u ∧ u.render = t.render := by
  obtain ⟨u, hu⟩ := exists_restores_of_resolve hs h
  exact ⟨u, hu.resolve s', hu.render⟩

theorem resolve_render_eq_nested :
    let s : Scope := ⟨"App".toList, [("foo".toList, "Vendor\\Foo".toList)]⟩
    let raw : Text := "( ?((Foo\\Bar) | X)[] )[] | a)|b".toList
    let t : Ty := .compound [.array (.nullable (.array (.compound
      [.object "\\Vendor\\Foo\\Bar".toList, .object "\\App\\X".toList]))),
      .object "\\App\\a)|b".toList]
    s.Within IsPlain ∧ resolve s raw = .ok t ∧
      ∃ u, resolve {} t.render = .ok u ∧ u.render = t.render := by
  intro s raw t
  have hs : s.Within IsPlain := ⟨by decide, by decide, by decide⟩
  have h : resolve s raw = .ok t :=
    resolve_eq_ok.2 ⟨.compound [.array (.nullable (.array (.compound [.object "Foo\\Bar".toList,
      .object "X".toList]))), .object "a)|b".toList], by decide +kernel, by decide +kernel⟩
  exact ⟨hs, h, resolve_render_eq hs {} h⟩

end Ty

end DocTag
