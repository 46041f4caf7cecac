import DocTag.Proofs.Ty.Rendering

namespace DocTag.Ty

open Text

inductive WellFormed : Ty → Prop
  | keyword (k : Keyword) : WellFormed (.keyword k)
  | this : WellFormed .this
  | object {name : Text} : name.head? = some '\\' → WellFormed (.object name)
  | array {t : Ty} : WellFormed t → WellFormed (.array t)
  | nullable {t : Ty} : WellFormed t → WellFormed (.nullable t)
  | compound {ts : List Ty} : 2 ≤ ts.length → (∀ t ∈ ts, WellFormed t) → WellFormed (.compound ts)

theorem wellFormed_atom (s : Scope) (u : Text) : WellFormed ((atom u).qualify s) := by
  unfold atom
  split
  · exact .this
  · split
    · exact .keyword _
    · obtain ⟨rest, hfull⟩ := s.exists_qualify_eq u
      refine .object ?_
      rw [hfull]
      rfl

theorem wellFormed_of_read? (s : Scope) {raw : Text} {t : Ty} (h : read? raw = some t) :
    WellFormed (t.qualify s) := by
  refine read?_induction (motive := fun _ t => WellFormed (t.qualify s)) ?_ ?_ ?_ ?_ ?_ h
  · intro raw members ts hform ih
    have hlength : 2 ≤ members.length := by
      have hhas := Form.has_ofText raw
      rw [hform] at hhas
      generalize raw.trim = trimmed at hhas
      cases hhas with
      | union => simp
    have hmembers : ∀ t ∈ ts.map (qualify s), WellFormed t := by
      clear hform hlength
      induction ih with
      | nil => simp
      | cons h _ ih => exact List.forall_mem_cons.2 ⟨h, ih⟩
    rw [qualify, qualifyAll_eq_map]
    exact .compound (by rwa [List.length_map, ← ih.length_eq]) hmembers
  · exact fun _ ih => .nullable ih
  · exact fun _ ih => .array ih
  · exact fun _ ih => ih
  · exact fun {_ u} _ => wellFormed_atom s u

theorem wellFormed_of_resolve {s : Scope} {raw : Text} {t : Ty} (h : resolve s raw = .ok t) :
    t.WellFormed := by
  obtain ⟨u, hread, rfl⟩ := resolve_eq_ok.1 h
  exact wellFormed_of_read? s hread

inductive Opening : Text → Prop
  | receiver {rest : Text} : (∀ c ∈ rest.head?, isWord c = false) →
      Opening ("$this".toList ++ rest)
  | other {c : Char} {rest : Text} : c = '\\' ∨ c = '?' ∨ c = '(' ∨ c.isAlpha = true →
      Opening (c :: rest)

theorem Opening.ne_nil {t : Text} (h : Opening t) : t ≠ [] := by
  cases h <;> simp

theorem Opening.exists_receiver {t : Text} (h : Opening t) (hhead : t.head? = some '$') :
    ∃ rest : Text, (∀ c ∈ rest.head?, isWord c = false) ∧ t = "$this".toList ++ rest := by
  cases h with
  | receiver hrest => exact ⟨_, hrest, rfl⟩
  | other hc =>
    obtain rfl := Option.some.inj hhead
    exact absurd hc (by decide)

theorem Opening.append {t u : Text} (h : Opening t) (hu : ∀ c ∈ u.head?, isWord c = false) :
    Opening (t ++ u) := by
  cases h with
  | @receiver rest hrest =>
    rw [List.append_assoc]
    refine .receiver ?_
    cases rest with
    | nil => exact hu
    | cons c rest => exact hrest
  | other hc => exact .other hc

theorem WellFormed.opening {t : Ty} (h : t.WellFormed) : Opening t.render := by
  induction h with
  | keyword k =>
    obtain ⟨c, rest, hname⟩ := List.exists_cons_of_ne_nil (show k.name ≠ [] by cases k <;> decide)
    have hletter : c.isAlpha = true := Keyword.isAlpha_of_mem_name (k := k) (by simp [hname])
    rw [render, hname]
    exact .other (.inr (.inr (.inr hletter)))
  | this => exact @Opening.receiver [] (by simp)
  | object hname =>
    obtain ⟨rest, rfl⟩ := List.head?_eq_some_iff.1 hname
    exact .other (.inl rfl)
  | @array t _ ih =>
    rw [render]
    split
    · exact .other (.inr (.inr (.inl rfl)))
    · exact ih.append (by rintro _ ⟨⟩; decide)
  | nullable => exact .other (.inr (.inl rfl))
  | @compound ts hlength _ ih =>
    obtain ⟨t, ts, rfl⟩ := List.exists_cons_of_length_pos (show 0 < ts.length by omega)
    have hne : ts.map render ≠ [] := by
      rintro e
      simp [List.map_eq_nil_iff.1 e] at hlength
    rw [render, renderAll_eq_map, List.map_cons, List.intercalate_cons_of_ne_nil hne,
      List.append_assoc]
    exact (ih t (by simp)).append (by rintro _ ⟨⟩; decide)

end DocTag.Ty
