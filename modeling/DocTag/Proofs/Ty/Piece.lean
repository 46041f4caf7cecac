import DocTag.Proofs.Scope
import DocTag.Proofs.Ty.Read

namespace DocTag.Ty

open Text

/-- Reading `t` gives `u`, in which every class has its full name and which is written as `t`. -/
structure Restores (t : Text) (u : Ty) : Prop where
  read : read? t = some u
  render : u.render = t
  qualify : ∀ s, u.qualify s = u

inductive Piece : Text → Prop
  | atom {t : Text} : t.Tight → Form.Has t (.name t) → (atom t).render = t →
      (∀ s, (atom t).qualify s = atom t) → Piece t
  | nullable {t : Text} : Piece t → Piece ('?' :: t)
  | array {t : Text} : Piece t → t.head? ≠ some '?' → Piece (t ++ ['[', ']'])
  | union {p q : Text} {ps : List Text} : TopSplit '|' (p :: q :: ps) →
      (∀ r ∈ p :: q :: ps, Piece r) → ¬ BarAt (-1) (['|'].intercalate (p :: q :: ps)) →
      Piece ('(' :: ['|'].intercalate (p :: q :: ps) ++ [')', '[', ']'])

theorem atom_isCompound (t : Text) : (atom t).isCompound = false := by
  unfold atom
  split
  · rfl
  · split <;> rfl

namespace Piece

theorem ne_nil {t : Text} (h : Piece t) : t ≠ [] := by
  cases h with
  | atom _ hform => cases hform with | name _ hne => exact hne
  | nullable => simp
  | array => simp
  | union => simp

theorem tight {t : Text} (h : Piece t) : t.Tight := by
  induction h with
  | atom h => exact h
  | @nullable t h ih =>
    refine ⟨by rintro _ ⟨⟩; rfl, ?_⟩
    rw [List.getLast?_cons_of_ne_nil h.ne_nil]
    exact ih.last
  | @array t h _ ih =>
    refine ⟨?_, ?_⟩
    · rw [List.head?_append_of_ne_nil _ h.ne_nil]
      exact ih.head
    · rw [List.getLast?_append_of_ne_nil _ (by simp)]
      rintro _ ⟨⟩
      rfl
  | union =>
    refine ⟨by rintro _ ⟨⟩; rfl, ?_⟩
    rw [List.getLast?_append_of_ne_nil _ (by simp)]
    rintro _ ⟨⟩
    rfl

theorem not_barAt {t : Text} (h : Piece t) : ¬ BarAt 0 t := by
  induction h with
  | atom _ hform => cases hform with | name h => exact h
  | nullable _ ih =>
    rw [barAt_cons, not_or]
    exact ⟨by decide, ih⟩
  | array _ _ ih =>
    rw [barAt_append, not_or]
    exact ⟨ih, not_barAt_of_not_mem (by decide)⟩
  | union _ _ hbar =>
    rw [List.cons_append, barAt_cons, barAt_append, not_or, not_or]
    exact ⟨by decide, hbar, not_barAt_of_not_mem (by decide)⟩

theorem unwrap?_eq_none {t : Text} (h : Piece t) : t.unwrap? = none := by
  rw [Text.unwrap?_eq_none]
  intro inner e
  have bracket : ∀ u : Text, u ++ ['[', ']'] ≠ '(' :: inner ++ [')'] := by
    intro u e
    rw [show u ++ ['[', ']'] = (u ++ ['[']) ++ [']'] by simp] at e
    simpa using List.append_inj_right' e rfl
  cases h with
  | atom _ hform => cases hform with | name _ _ _ _ h => exact Text.unwrap?_eq_none.1 h inner e
  | nullable => simp at e
  | array => exact bracket _ e
  | @union p q ps =>
    apply bracket ('(' :: ['|'].intercalate (p :: q :: ps) ++ [')'])
    rw [← e]
    simp

end Piece

theorem Restores.unique {t : Text} {u v : Ty} (hu : Restores t u) (hv : Restores t v) : u = v :=
  Option.some.inj (hu.read.symm.trans hv.read)

theorem Restores.all {ps : List Text} {us : List Ty} (h : List.Forall₂ Restores ps us) :
    ps.mapM read? = some us ∧ us.map Ty.render = ps ∧ ∀ s, us.map (Ty.qualify s) = us := by
  induction h with
  | nil => exact ⟨rfl, rfl, fun _ => rfl⟩
  | cons hu _ ih =>
    obtain ⟨hread, hrender, hqualify⟩ := ih
    refine ⟨?_, ?_, ?_⟩
    · simp [List.mapM_cons, hu.read, hread]
    · simp [hu.render, hrender]
    · intro s
      simp [hu.qualify, hqualify]

theorem exists_restores_all {ps : List Text} (h : ∀ p ∈ ps, ∃ u, Restores p u) :
    ∃ us : List Ty, List.Forall₂ Restores ps us := by
  induction ps with
  | nil => exact ⟨[], .nil⟩
  | cons p ps ih =>
    obtain ⟨u, hu⟩ := h p (by simp)
    obtain ⟨us, hus⟩ := ih fun q hq => h q (by simp [hq])
    exact ⟨u :: us, .cons hu hus⟩

theorem tight_intercalate {ps : List Text} (hne : ps ≠ []) (h : ∀ p ∈ ps, p ≠ [] ∧ p.Tight) :
    Tight (['|'].intercalate ps) := by
  induction ps with
  | nil => contradiction
  | cons p ps ih =>
    obtain ⟨hp, htight⟩ := h p (by simp)
    cases ps with
    | nil => rwa [List.intercalate_singleton]
    | cons q qs =>
      have hrest := ih (by simp) fun r hr => h r (by simp [hr])
      have hq : ['|'].intercalate (q :: qs) ≠ [] := by
        cases qs with
        | nil =>
          rw [List.intercalate_singleton]
          exact (h q (by simp)).1
        | cons r rs => simp
      rw [List.intercalate_cons_cons, List.append_assoc]
      refine ⟨?_, ?_⟩
      · rw [List.head?_append_of_ne_nil _ hp]
        exact htight.head
      · rw [List.singleton_append, List.getLast?_append_of_ne_nil _ (by simp),
          List.getLast?_cons_of_ne_nil hq]
        exact hrest.last

namespace Restores

theorem union {p q : Text} {ps : List Text} {us : List Ty} (hs : TopSplit '|' (p :: q :: ps))
    (hpieces : ∀ r ∈ p :: q :: ps, Piece r) (h : List.Forall₂ Restores (p :: q :: ps) us) :
    Restores (['|'].intercalate (p :: q :: ps)) (.compound us) := by
  obtain ⟨hread, hrender, hqualify⟩ := all h
  have htight : ∀ r ∈ p :: q :: ps, r ≠ [] ∧ r.Tight := fun r hr =>
    ⟨(hpieces r hr).ne_nil, (hpieces r hr).tight⟩
  refine ⟨?_, ?_, ?_⟩
  · rw [read?_eq, (Form.Has.union hs).ofText_eq (tight_intercalate (by simp) htight)]
    simp only [hread, Option.map_some]
  · rw [Ty.render, renderAll_eq_map, hrender]
  · intro s
    rw [Ty.qualify, qualifyAll_eq_map, hqualify]

theorem nullable {t : Text} {u : Ty} (h : Restores t u) (ht : Piece t) :
    Restores ('?' :: t) (.nullable u) := by
  have hpiece := Piece.nullable ht
  refine ⟨?_, ?_, ?_⟩
  · rw [read?_eq, (Form.Has.nullable hpiece.not_barAt).ofText_eq hpiece.tight]
    simp only [h.read, Option.map_some]
  · rw [Ty.render, h.render]
  · intro s
    rw [Ty.qualify, h.qualify]

theorem array {t : Text} {u : Ty} (h : Restores t u) (ht : Piece t) (hhead : t.head? ≠ some '?')
    (hcompound : u.isCompound = false) : Restores (t ++ ['[', ']']) (.array u) := by
  have hpiece := Piece.array ht hhead
  refine ⟨?_, ?_, ?_⟩
  · rw [read?_eq, (Form.Has.array hpiece.not_barAt hhead ht.unwrap?_eq_none).ofText_eq hpiece.tight]
    simp only [h.read, Option.map_some]
  · simp [Ty.render, hcompound, h.render]
  · intro s
    rw [Ty.qualify, h.qualify]

theorem wrapped {t : Text} {us : List Ty} (h : Restores t (.compound us))
    (hpiece : Piece ('(' :: t ++ [')', '[', ']'])) :
    Restores ('(' :: t ++ [')', '[', ']']) (.array (.compound us)) := by
  refine ⟨?_, ?_, ?_⟩
  · rw [read?_eq, (Form.Has.wrapped hpiece.not_barAt).ofText_eq hpiece.tight]
    simp only [h.read, Option.map_some]
  · rw [Ty.render, h.render]
    rfl
  · intro s
    rw [Ty.qualify, h.qualify]

end Restores

theorem Piece.exists_restores {t : Text} (h : Piece t) :
    ∃ u, Restores t u ∧ u.isCompound = false := by
  -- A piece is never read as a union, so that `[]` can follow it without parentheses.
  induction h with
  | @atom t htight hform hrender hqualify =>
    refine ⟨Ty.atom t, ⟨?_, hrender, hqualify⟩, atom_isCompound t⟩
    rw [read?_eq, hform.ofText_eq htight]
  | nullable ht ih =>
    obtain ⟨u, hu, -⟩ := ih
    exact ⟨.nullable u, hu.nullable ht, rfl⟩
  | array ht hhead ih =>
    obtain ⟨u, hu, hcompound⟩ := ih
    exact ⟨.array u, hu.array ht hhead hcompound, rfl⟩
  | union hs hpieces hbar ih =>
    obtain ⟨us, hus⟩ := exists_restores_all fun r hr => (ih r hr).imp fun _ hu => hu.1
    exact ⟨_, (Restores.union hs hpieces hus).wrapped (.union hs hpieces hbar), rfl⟩

theorem Piece.array_of {t : Text} (h : Piece t) : Piece (t ++ ['[', ']']) := by
  -- `[]` binds more tightly than `?`, so it goes under the leading `?` of a piece.
  cases hhead : decide (t.head? = some '?') with
  | false => exact .array h (by simpa using hhead)
  | true =>
    rw [decide_eq_true_eq] at hhead
    induction h with
    | atom _ hform => cases hform with | name _ _ hne => contradiction
    | @nullable t h ih =>
      rw [List.cons_append]
      apply Piece.nullable
      by_cases ht : t.head? = some '?'
      · exact ih ht
      · exact .array h ht
    | array h hne =>
      rw [List.head?_append_of_ne_nil _ h.ne_nil] at hhead
      contradiction
    | union => simp at hhead

structure Pieces (ps : List Text) : Prop where
  split : TopSplit '|' ps
  piece : ∀ p ∈ ps, Piece p

namespace Pieces

theorem single {p : Text} (h : Piece p) : Pieces [p] := ⟨.single h.not_barAt, by simpa using h⟩

theorem cons {p : Text} {ps : List Text} (h : Piece p) (hd : p.depth = 0) (hs : Pieces ps) :
    Pieces (p :: ps) :=
  ⟨.cons h.not_barAt hd hs.split, by simpa using ⟨h, hs.piece⟩⟩

theorem nullable_cons {p : Text} {ps : List Text} (h : Pieces (p :: ps)) :
    Pieces (('?' :: p) :: ps) := by
  obtain ⟨hs, hp⟩ := h
  have hpiece := Piece.nullable (hp p (by simp))
  cases hs with
  | single => exact .single hpiece
  | cons _ hd hs =>
    refine .cons hpiece ?_ ⟨hs, fun q hq => hp q (by simp [hq])⟩
    rw [depth_cons, hd]
    decide

theorem nullable {ps : List Text} (h : Pieces ps) :
    ∃ qs, Pieces qs ∧ ['|'].intercalate qs = '?' :: ['|'].intercalate ps := by
  obtain ⟨p, ps, rfl⟩ := List.exists_cons_of_ne_nil h.split.ne_nil
  exact ⟨('?' :: p) :: ps, h.nullable_cons, List.intercalate_cons_cons_left⟩

theorem array {ps : List Text} (h : Pieces ps) :
    ∃ qs, Pieces qs ∧ ['|'].intercalate qs = ['|'].intercalate ps ++ ['[', ']'] := by
  obtain ⟨hs, hp⟩ := h
  induction hs with
  | @single p => exact ⟨[p ++ ['[', ']']], .single (hp p (by simp)).array_of, by simp⟩
  | @cons p ps _ hd hs ih =>
    obtain ⟨qs, hqs, hjoin⟩ := ih fun q hq => hp q (by simp [hq])
    refine ⟨p :: qs, .cons (hp p (by simp)) hd hqs, ?_⟩
    rw [List.intercalate_cons_of_ne_nil hqs.split.ne_nil, hjoin,
      List.intercalate_cons_of_ne_nil hs.ne_nil]
    simp

theorem append {ps qs : List Text} (h : Pieces ps) (hd : depth (['|'].intercalate ps) = 0)
    (hq : Pieces qs) : Pieces (ps ++ qs) := by
  obtain ⟨hs, hp⟩ := h
  induction hs with
  | @single p =>
    rw [List.intercalate_singleton] at hd
    exact .cons (hp p (by simp)) hd hq
  | @cons p ps _ hdp hs ih =>
    rw [List.intercalate_cons_of_ne_nil hs.ne_nil] at hd
    have hbar : depth ['|'] = 0 := by decide
    simp only [depth_append, hdp, hbar] at hd
    exact .cons (hp p (by simp)) hdp (ih (by omega) fun r hr => hp r (by simp [hr]))

theorem exists_restores {ps : List Text} (h : Pieces ps) :
    ∃ u, Restores (['|'].intercalate ps) u := by
  obtain ⟨us, hus⟩ := exists_restores_all fun p hp =>
    (h.piece p hp).exists_restores.imp fun _ hu => hu.1
  cases hus with
  | nil => exact absurd rfl h.split.ne_nil
  | cons hu hrest =>
    cases hrest with
    | nil =>
      rw [List.intercalate_singleton]
      exact ⟨_, hu⟩
    | cons hv hrest => exact ⟨_, .union h.split h.piece (.cons hu (.cons hv hrest))⟩

end Pieces

end DocTag.Ty
