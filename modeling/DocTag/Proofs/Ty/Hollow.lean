import DocTag.Proofs.Ty.Read

namespace DocTag

namespace Text

theorem splitTop_eq_splitOn {sep : Char} {t : Text} (h : ∀ c ∈ t, bracketStep c = 0) :
    t.splitTop sep = t.splitOn sep := by
  unfold splitTop
  induction t with
  | nil => rfl
  | cons c t ih =>
    rw [List.forall_mem_cons] at h
    obtain ⟨piece, pieces, hpieces⟩ := List.exists_cons_of_ne_nil (List.splitOn_ne_nil sep t)
    simp [splitFrom, List.splitOn_cons_eq_if_modifyHead, h.1, ih h.2, hpieces]

inductive Pairs : Text → Prop
  | nil : Pairs []
  | snoc {t : Text} : Pairs t → Pairs (t ++ ['[', ']'])

theorem pairs_append {t : Text} : Pairs (t ++ ['[', ']']) ↔ Pairs t := by
  refine ⟨fun h => ?_, .snoc⟩
  generalize e : t ++ ['[', ']'] = u at h
  cases h with
  | nil => simp at e
  | snoc h => rwa [List.append_cancel_right e]

end Text

namespace Ty

open Text

/-- A text of blanks, or with such a text for one of the parts that remain to be read. -/
inductive Hollow : Text → Prop
  | blank {raw : Text} : raw.Blank → Hollow raw
  | part {raw part : Text} : part ∈ (Form.ofText raw).parts → Hollow part → Hollow raw

theorem Form.ofText_eq_blank_iff {raw : Text} : Form.ofText raw = .blank ↔ raw.Blank := by
  constructor
  · intro h
    have hhas := Form.has_ofText raw
    rw [h] at hhas
    generalize e : raw.trim = trimmed at hhas
    cases hhas
    exact blank_of_trim_eq_nil e
  · intro h
    rw [ofText, trim_of_blank h]
    rfl

theorem mapM_eq_none_iff {f : Text → Option Ty} {ps : List Text} :
    ps.mapM f = none ↔ ∃ p ∈ ps, f p = none := by
  induction ps with
  | nil => simp
  | cons p ps ih =>
    rw [List.mapM_cons]
    cases hp : f p with
    | none => simp [hp]
    | some t =>
      cases hps : ps.mapM f with
      | none =>
        obtain ⟨q, hq, hnone⟩ := ih.1 hps
        simpa [hp] using ⟨q, hq, hnone⟩
      | some ts =>
        have hsome : ∀ q ∈ ps, f q ≠ none := fun q hq hnone => by
          rw [ih.2 ⟨q, hq, hnone⟩] at hps
          cases hps
        simpa [hp] using hsome

theorem read?_eq_none_iff_parts {raw : Text} : read? raw = none ↔
    raw.Blank ∨ ∃ part ∈ (Form.ofText raw).parts, read? part = none := by
  rw [← Form.ofText_eq_blank_iff, read?_eq]
  cases Form.ofText raw <;> simp [Form.parts, mapM_eq_none_iff]

theorem hollow_iff {raw : Text} :
    Hollow raw ↔ raw.Blank ∨ ∃ part ∈ (Form.ofText raw).parts, Hollow part := by
  constructor
  · rintro (h | ⟨hmem, h⟩)
    · exact .inl h
    · exact .inr ⟨_, hmem, h⟩
  · rintro (h | ⟨part, hmem, h⟩)
    · exact .blank h
    · exact .part hmem h

theorem read?_eq_none_iff {raw : Text} : read? raw = none ↔ Hollow raw := by
  induction hn : raw.length using Nat.strongRecOn generalizing raw with
  | _ n ih =>
    subst hn
    rw [read?_eq_none_iff_parts, hollow_iff]
    refine or_congr_right (exists_congr fun part => and_congr_right fun hmem => ?_)
    exact ih _ (Form.length_lt_of_mem_parts hmem) rfl

instance : DecidablePred Hollow := fun _ => decidable_of_iff _ read?_eq_none_iff

theorem resolve_eq_error_iff {s : Scope} {raw : Text} {why : Fault} :
    resolve s raw = .error why ↔ why = .emptyType ∧ Hollow raw := by
  rw [← read?_eq_none_iff]
  unfold resolve
  cases read? raw <;> simp [eq_comm]

def IsFlat (c : Char) : Prop := isBlank c = false ∧ bracketStep c = 0 ∧ c ≠ '?'

instance : DecidablePred IsFlat := fun c =>
  inferInstanceAs (Decidable (isBlank c = false ∧ bracketStep c = 0 ∧ c ≠ '?'))

theorem hollow_iff_pairs {t : Text} (h : ∀ c ∈ t, IsFlat c) (hbar : '|' ∉ t) :
    Hollow t ↔ Pairs t := by
  induction hn : t.length using Nat.strongRecOn generalizing t with
  | _ n ih =>
    subst hn
    have htight : t.Tight := tight_of_forall fun c hc => (h c hc).1
    have hhas := Form.has_ofText t
    rw [htight.trim_eq] at hhas
    rw [hollow_iff]
    generalize Form.ofText t = form at hhas
    cases hhas with
    | blank => simp [Pairs.nil]
    | union => exact absurd (by simp) hbar
    | nullable => exact absurd rfl (h '?' (by simp)).2.2
    | wrapped | group => exact absurd (h '(' (by simp)).2.1 (by decide)
    | @array u =>
      have hu := ih u.length (by simp) (fun c hc => h c (by simp [hc]))
        (fun hc => hbar (by simp [hc])) rfl
      have hblank : ¬ (u ++ ['[', ']']).Blank := fun hb =>
        absurd (hb '[' (by simp)) (by decide)
      simp [Form.parts, hblank, hu, pairs_append]
    | name _ hne _ htail =>
      have hblank : ¬ t.Blank := fun hb => hne (by rw [← htight.trim_eq, trim_of_blank hb])
      have hpairs : ¬ Pairs t := fun hp => by
        cases hp with
        | nil => exact hne rfl
        | @snoc u => exact htail u rfl
      simp [Form.parts, hblank, hpairs]

theorem hollow_iff_of_flat {t : Text} (h : ∀ c ∈ t, IsFlat c) :
    Hollow t ↔ ∃ piece ∈ t.splitOn '|', Pairs piece := by
  have hpiece : ∀ piece ∈ t.splitOn '|', (Hollow piece ↔ Pairs piece) := fun piece hp =>
    hollow_iff_pairs (fun c hc => h c (mem_of_mem_splitOn hp hc)) (not_mem_of_mem_splitOn hp)
  have htight : t.Tight := tight_of_forall fun c hc => (h c hc).1
  have hsplit : t.splitTop '|' = t.splitOn '|' := splitTop_eq_splitOn fun c hc => (h c hc).2.1
  by_cases hbar : '|' ∈ t
  · obtain ⟨p, rest, ht, hp⟩ := List.eq_append_cons_of_mem hbar
    obtain ⟨q, qs, hqs⟩ := List.exists_cons_of_ne_nil (List.splitOn_ne_nil '|' rest)
    have hpieces : t.splitOn '|' = p :: q :: qs := by
      rw [ht, List.splitOn_append_cons_self_of_not_mem hp, hqs]
    have hparts : (Form.ofText t).parts = t.splitOn '|' := by
      rw [Form.ofText, htight.trim_eq, hsplit, hpieces]
      rfl
    have hblank : ¬ t.Blank := fun hb => absurd (hb '|' hbar) (by decide)
    rw [hollow_iff, hparts, or_iff_right hblank]
    exact exists_congr fun piece => and_congr_right (hpiece piece)
  · rw [List.splitOn_eq_singleton hbar] at hpiece ⊢
    simpa using hpiece t (by simp)

end Ty

end DocTag
