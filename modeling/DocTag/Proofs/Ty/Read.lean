import DocTag.Proofs.Depth
import DocTag.Ty.Read
import Mathlib.Data.List.Forall2

namespace DocTag

theorem bracketStep_bar : bracketStep '|' = 0 := by decide

abbrev Text.BarAt (d : Int) (t : Text) : Prop := t.SepAt '|' d

namespace Text

theorem barAt_cons {d : Int} {c : Char} {t : Text} :
    BarAt d (c :: t) ↔ c = '|' ∧ d = 0 ∨ BarAt (d - bracketStep c) t := sepAt_cons

theorem barAt_append {d : Int} {t u : Text} :
    BarAt d (t ++ u) ↔ BarAt d t ∨ BarAt (d - depth t) u := sepAt_append

theorem not_barAt_of_not_mem {d : Int} {t : Text} (h : '|' ∉ t) : ¬ BarAt d t :=
  not_sepAt_of_not_mem h

theorem unwrap?_eq_some {t inner : Text} : t.unwrap? = some inner ↔ t = '(' :: inner ++ [')'] := by
  simp [unwrap?, Option.bind_eq_some_iff, List.isPrefixOf?_eq_some_iff_append_eq,
    List.isSuffixOf?_eq_some_iff_append_eq, eq_comm]

theorem unwrap?_eq_none {t : Text} : t.unwrap? = none ↔ ∀ inner, t ≠ '(' :: inner ++ [')'] := by
  simp only [Option.eq_none_iff_forall_ne_some, ne_eq, unwrap?_eq_some]

theorem isSuffixOf?_eq_none {tail t : Text} : tail.isSuffixOf? t = none ↔ ∀ u, t ≠ u ++ tail := by
  simp only [Option.eq_none_iff_forall_ne_some, ne_eq, List.isSuffixOf?_eq_some_iff_append_eq,
    eq_comm]

end Text

namespace Ty

open Text

/-- The texts without outer blanks that have a given form. -/
inductive Form.Has : Text → Form → Prop
  | blank : Has [] .blank
  | union {p q : Text} {ps : List Text} :
      TopSplit '|' (p :: q :: ps) → Has (['|'].intercalate (p :: q :: ps)) (.union (p :: q :: ps))
  | nullable {t : Text} : ¬ BarAt 0 ('?' :: t) → Has ('?' :: t) (.nullable t)
  | wrapped {t : Text} :
      ¬ BarAt 0 ('(' :: t ++ [')', '[', ']']) → Has ('(' :: t ++ [')', '[', ']']) (.array t)
  | array {t : Text} : ¬ BarAt 0 (t ++ ['[', ']']) → t.head? ≠ some '?' → t.unwrap? = none →
      Has (t ++ ['[', ']']) (.array t)
  | group {t : Text} : ¬ BarAt 0 ('(' :: t ++ [')']) → Has ('(' :: t ++ [')']) (.group t)
  | name {t : Text} : ¬ BarAt 0 t → t ≠ [] → t.head? ≠ some '?' → (∀ u, t ≠ u ++ ['[', ']']) →
      t.unwrap? = none → Has t (.name t)

theorem Form.has_ofPiece {t : Text} (h : ¬ BarAt 0 t) : Has t (ofPiece t) := by
  unfold ofPiece
  split
  · exact .blank
  · exact .nullable h
  · rename_i hnil hnull
    have hhead : t.head? ≠ some '?' := by
      intro e
      cases t with
      | nil => cases e
      | cons c t =>
        rw [List.head?_cons, Option.some.injEq] at e
        exact hnull t (by rw [e])
    split
    · rename_i inner hi
      rw [List.isSuffixOf?_eq_some_iff_append_eq] at hi
      subst hi
      cases hu : Text.unwrap? inner with
      | none =>
        refine .array h ?_ hu
        intro e
        apply hhead
        rw [List.head?_append, e]
        rfl
      | some bare =>
        rw [unwrap?_eq_some] at hu
        subst hu
        simpa using Has.wrapped (t := bare) (by simpa using h)
    · rename_i htail
      rw [isSuffixOf?_eq_none] at htail
      split
      · rename_i inner hu
        rw [unwrap?_eq_some] at hu
        subst hu
        exact .group h
      · exact .name h hnil hhead htail ‹_›

theorem Form.has_ofText (raw : Text) : Has raw.trim (ofText raw) := by
  have hsplit := topSplit_splitTop bracketStep_bar raw.trim
  have hjoin := intercalate_splitTop bracketStep_bar raw.trim
  unfold ofText
  split
  · rename_i p q ps e
    rw [e] at hsplit hjoin
    rw [← hjoin]
    exact .union hsplit
  · rename_i h
    apply has_ofPiece
    cases e : raw.trim.splitTop '|' with
    | nil => exact absurd e (splitFrom_ne_nil _ _ _)
    | cons p ps =>
      cases ps with
      | nil =>
        rw [e] at hsplit hjoin
        rw [← hjoin, List.intercalate_singleton]
        exact hsplit.not_sepAt p (by simp)
      | cons q ps => exact absurd e (h p q ps)

theorem Form.Has.ofText_eq {t : Text} {form : Form} (h : Has t form) (ht : t.Tight) :
    ofText t = form := by
  have single : ¬ BarAt 0 t → ofText t = ofPiece t := by
    intro hbar
    have e := splitFrom_of_not_sepAt bracketStep_bar (d := 0) (by simpa using hbar)
    rw [ofText, ht.trim_eq, splitTop, e]
  cases h with
  | blank => rfl
  | union hs => rw [ofText, ht.trim_eq, splitTop_intercalate bracketStep_bar hs]
  | nullable hbar => rw [single hbar, ofPiece]
  | @wrapped u hbar =>
    have hu : unwrap? ('(' :: u ++ [')']) = some u := unwrap?_eq_some.2 rfl
    have htail : ['[', ']'].isSuffixOf? ('(' :: u ++ [')', '[', ']']) = some ('(' :: u ++ [')']) :=
      List.isSuffixOf?_eq_some_iff_append_eq.2 (by simp)
    rw [single hbar]
    simp only [ofPiece, List.cons_append] at htail hu ⊢
    rw [htail]
    simp [hu]
  | @array u hbar hhead hu =>
    have htail : ['[', ']'].isSuffixOf? (u ++ ['[', ']']) = some u :=
      List.isSuffixOf?_eq_some_iff_append_eq.2 rfl
    rw [single hbar]
    unfold ofPiece
    split
    · rename_i e; simp at e
    · rename_i rest e
      cases u with
      | nil => simp at e
      | cons c u => simp_all
    · rw [htail]
      simp [hu]
  | @group u hbar =>
    have hu : unwrap? ('(' :: u ++ [')']) = some u := unwrap?_eq_some.2 rfl
    have htail : ['[', ']'].isSuffixOf? ('(' :: u ++ [')']) = none := by
      rw [isSuffixOf?_eq_none]
      intro v e
      rw [show v ++ ['[', ']'] = (v ++ ['[']) ++ [']'] by simp] at e
      simpa using List.append_inj_right' e rfl
    rw [single hbar]
    simp only [ofPiece, List.cons_append] at htail hu ⊢
    rw [htail, hu]
    rfl
  | name hbar hnil hhead htail hu =>
    rw [single hbar]
    unfold ofPiece
    split
    · contradiction
    · simp at hhead
    · rw [isSuffixOf?_eq_none.2 htail, hu]

theorem mapM_eq_some_iff {f : Text → Option Ty} {ps : List Text} {ts : List Ty} :
    ps.mapM f = some ts ↔ List.Forall₂ (fun p t => f p = some t) ps ts := by
  induction ps generalizing ts with
  | nil => simp [eq_comm]
  | cons p ps ih =>
    simp only [List.mapM_cons, Option.bind_eq_bind, Option.bind_eq_some_iff, Option.pure_def,
      Option.some.injEq, ih, List.forall₂_cons_left_iff]
    constructor
    · rintro ⟨t, ht, us, hus, rfl⟩
      exact ⟨t, us, ht, hus, rfl⟩
    · rintro ⟨t, us, ht, hus, rfl⟩
      exact ⟨t, ht, us, hus, rfl⟩

theorem read?_eq (raw : Text) : read? raw =
    match Form.ofText raw with
    | .blank => none
    | .union members => (members.mapM read?).map .compound
    | .nullable of => (read? of).map .nullable
    | .array of => (read? of).map .array
    | .group inner => read? inner
    | .name t => some (atom t) := by
  rw [read?]
  split <;> rename_i e <;> simp only [e]
  rw [List.mapM_subtype (g := read?) (by simp)]
  simp

theorem read?_induction {motive : Text → Ty → Prop}
    (union : ∀ {raw members ts}, Form.ofText raw = .union members →
      List.Forall₂ motive members ts → motive raw (.compound ts))
    (nullable : ∀ {raw of t}, Form.ofText raw = .nullable of → motive of t →
      motive raw (.nullable t))
    (array : ∀ {raw of t}, Form.ofText raw = .array of → motive of t → motive raw (.array t))
    (group : ∀ {raw inner t}, Form.ofText raw = .group inner → motive inner t → motive raw t)
    (name : ∀ {raw u}, Form.ofText raw = .name u → motive raw (atom u))
    {raw : Text} {t : Ty} (h : read? raw = some t) : motive raw t := by
  induction hn : raw.length using Nat.strongRecOn generalizing raw t with
  | _ n ih =>
    subst hn
    have part : ∀ {p u}, p ∈ (Form.ofText raw).parts → read? p = some u → motive p u :=
      fun hp hu => ih _ (Form.length_lt_of_mem_parts hp) hu rfl
    rw [read?_eq] at h
    cases e : Form.ofText raw with
    | blank => simp [e] at h
    | union members =>
      simp only [e, Option.map_eq_some_iff, mapM_eq_some_iff] at h
      obtain ⟨ts, hts, rfl⟩ := h
      apply union e
      have hmem : ∀ p ∈ members, p ∈ (Form.ofText raw).parts := by simp [e, Form.parts]
      clear e
      induction hts with
      | nil => exact .nil
      | cons hp _ ihs =>
        exact .cons (part (hmem _ (by simp)) hp) (ihs fun q hq => hmem q (by simp [hq]))
    | nullable of =>
      simp only [e, Option.map_eq_some_iff] at h
      obtain ⟨u, hu, rfl⟩ := h
      exact nullable e (part (by simp [e, Form.parts]) hu)
    | array of =>
      simp only [e, Option.map_eq_some_iff] at h
      obtain ⟨u, hu, rfl⟩ := h
      exact array e (part (by simp [e, Form.parts]) hu)
    | group inner =>
      simp only [e] at h
      exact group e (part (by simp [e, Form.parts]) h)
    | name u =>
      simp only [e, Option.some.injEq] at h
      exact h ▸ name e

theorem resolve_eq_ok {s : Scope} {raw : Text} {t : Ty} :
    resolve s raw = .ok t ↔ ∃ u, read? raw = some u ∧ u.qualify s = t := by
  unfold resolve
  cases read? raw <;> simp

end Ty

end DocTag
