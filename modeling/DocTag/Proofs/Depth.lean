import DocTag.Proofs.Blank
import DocTag.Ty.Form

/-!
Bracket depth, and the split of a text at the separators of depth zero. The pieces of the split
are the only ones that join to the text, are level but for the last, and have no separator at depth
zero.
-/

namespace DocTag.Text

def depth : Text → Int
  | [] => 0
  | c :: t => bracketStep c + depth t

@[simp] theorem depth_nil : depth [] = 0 := rfl

@[simp] theorem depth_cons (c : Char) (t : Text) : depth (c :: t) = bracketStep c + depth t := rfl

@[simp] theorem depth_append (t u : Text) : depth (t ++ u) = depth t + depth u := by
  induction t with
  | nil => simp
  | cons c t ih => simp [ih, Int.add_assoc]

theorem depth_of_forall {t : Text} (h : ∀ c ∈ t, bracketStep c = 0) : depth t = 0 := by
  induction t with
  | nil => rfl
  | cons c t ih => simp [h c (by simp), ih fun d hd => h d (by simp [hd])]

/-- The separator `sep` stands in a text where the brackets before it add up to `d`. -/
def SepAt (sep : Char) (d : Int) (t : Text) : Prop := ∃ u v, t = u ++ sep :: v ∧ depth u = d

section SepAt

variable {sep : Char} {d : Int}

@[simp] theorem not_sepAt_nil : ¬ SepAt sep d [] := by
  rintro ⟨u, v, h, -⟩
  simp at h

theorem sepAt_cons {c : Char} {t : Text} :
    SepAt sep d (c :: t) ↔ c = sep ∧ d = 0 ∨ SepAt sep (d - bracketStep c) t := by
  constructor
  · rintro ⟨u, v, h, rfl⟩
    cases u with
    | nil => simp_all
    | cons e u =>
      rw [List.cons_append, List.cons.injEq] at h
      obtain ⟨rfl, rfl⟩ := h
      exact .inr ⟨u, v, rfl, by rw [depth_cons]; omega⟩
  · rintro (⟨rfl, rfl⟩ | ⟨u, v, rfl, h⟩)
    · exact ⟨[], t, rfl, rfl⟩
    · exact ⟨c :: u, v, rfl, by rw [depth_cons]; omega⟩

theorem sepAt_append {t u : Text} :
    SepAt sep d (t ++ u) ↔ SepAt sep d t ∨ SepAt sep (d - depth t) u := by
  induction t generalizing d with
  | nil => simp
  | cons c t ih =>
    rw [List.cons_append, sepAt_cons, sepAt_cons, ih, or_assoc, depth_cons]
    rw [show d - bracketStep c - depth t = d - (bracketStep c + depth t) by omega]

theorem not_sepAt_of_not_mem {t : Text} (h : sep ∉ t) : ¬ SepAt sep d t := by
  rintro ⟨u, v, rfl, -⟩
  simp at h

theorem SepAt.exists_first {t : Text} (h : SepAt sep d t) :
    ∃ u v, t = u ++ sep :: v ∧ depth u = d ∧ ¬ SepAt sep d u := by
  induction t generalizing d with
  | nil => exact absurd h not_sepAt_nil
  | cons c t ih =>
    by_cases hc : c = sep ∧ d = 0
    · obtain ⟨rfl, rfl⟩ := hc
      exact ⟨[], t, rfl, rfl, not_sepAt_nil⟩
    · obtain ⟨u, v, rfl, hu, hfirst⟩ := ih ((sepAt_cons.1 h).resolve_left hc)
      refine ⟨c :: u, v, rfl, by rw [depth_cons]; omega, ?_⟩
      rw [sepAt_cons]
      exact not_or.2 ⟨hc, hfirst⟩

instance decidableSepAt (sep : Char) : (d : Int) → (t : Text) → Decidable (SepAt sep d t)
  | _, [] => isFalse not_sepAt_nil
  | d, c :: t =>
    haveI := decidableSepAt sep (d - bracketStep c) t
    decidable_of_iff _ sepAt_cons.symm

end SepAt

section IsLevel

def openBrackets : List Char := ['(', '<', '\x7b']

def closeBrackets : List Char := [')', '>', '\x7d']

/-- As many opening brackets as closing ones, of whatever kinds and in whatever order. -/
def IsLevel (t : Text) : Prop := t.countP (· ∈ openBrackets) = t.countP (· ∈ closeBrackets)

instance : DecidablePred IsLevel := fun t =>
  inferInstanceAs (Decidable (t.countP (· ∈ openBrackets) = t.countP (· ∈ closeBrackets)))

theorem bracketStep_eq (c : Char) :
    bracketStep c = (if c ∈ openBrackets then 1 else 0) - (if c ∈ closeBrackets then 1 else 0) := by
  simp only [bracketStep, openBrackets, closeBrackets, List.mem_cons, List.not_mem_nil, or_false]
  split
  · rename_i hopen
    rw [if_neg (by rcases hopen with rfl | rfl | rfl <;> decide)]
    rfl
  · split <;> rfl

theorem depth_eq_count (t : Text) :
    depth t = t.countP (· ∈ openBrackets) - t.countP (· ∈ closeBrackets) := by
  induction t with
  | nil => rfl
  | cons c t ih =>
    rw [depth_cons, ih, bracketStep_eq, List.countP_cons, List.countP_cons]
    simp only [decide_eq_true_eq]
    split <;> split <;> omega

theorem isLevel_iff {t : Text} : IsLevel t ↔ depth t = 0 := by
  rw [IsLevel, depth_eq_count]
  omega

theorem not_sepAt_zero_iff {sep : Char} {t : Text} :
    ¬ SepAt sep 0 t ↔ ∀ u v, t = u ++ sep :: v → ¬ IsLevel u := by
  simp only [SepAt, isLevel_iff, not_exists, not_and]

end IsLevel

/-- Pieces of a split at depth zero: no separator of depth zero in any, all but the last level. -/
inductive TopSplit (sep : Char) : List Text → Prop
  | single {p : Text} : ¬ SepAt sep 0 p → TopSplit sep [p]
  | cons {p : Text} {ps : List Text} :
      ¬ SepAt sep 0 p → depth p = 0 → TopSplit sep ps → TopSplit sep (p :: ps)

namespace TopSplit

variable {sep : Char} {ps qs : List Text}

theorem ne_nil (h : TopSplit sep ps) : ps ≠ [] := by cases h <;> simp

theorem not_sepAt (h : TopSplit sep ps) : ∀ p ∈ ps, ¬ SepAt sep 0 p := by
  induction h with
  | single h => simpa using h
  | cons h _ _ ih => simpa using ⟨h, ih⟩

theorem of_level (hne : ps ≠ []) (hlevel : ∀ p ∈ ps.dropLast, depth p = 0)
    (hsep : ∀ p ∈ ps, ¬ SepAt sep 0 p) : TopSplit sep ps := by
  induction ps with
  | nil => contradiction
  | cons p ps ih =>
    rw [List.forall_mem_cons] at hsep
    by_cases hps : ps = []
    · subst hps
      exact .single hsep.1
    · rw [List.dropLast_cons_of_ne_nil hps, List.forall_mem_cons] at hlevel
      exact .cons hsep.1 hlevel.1 (ih hps hlevel.2 hsep.2)

theorem depth_dropLast (h : TopSplit sep ps) : ∀ p ∈ ps.dropLast, depth p = 0 := by
  induction h with
  | single => simp
  | cons _ hp hps ih =>
    rw [List.dropLast_cons_of_ne_nil hps.ne_nil]
    exact List.forall_mem_cons.2 ⟨hp, ih⟩

end TopSplit

theorem exists_topSplit (sep : Char) (t : Text) :
    ∃ ps, TopSplit sep ps ∧ [sep].intercalate ps = t := by
  -- Every text has a split: it is cut at its first separator of depth zero, and what follows is
  -- split again.
  by_cases h : SepAt sep 0 t
  · obtain ⟨u, v, e, hu, hfirst⟩ := h.exists_first
    have hlt : v.length < t.length := by
      rw [e, List.length_append, List.length_cons]
      omega
    obtain ⟨ps, hps, hv⟩ := exists_topSplit sep v
    refine ⟨u :: ps, .cons hfirst hu hps, ?_⟩
    rw [List.intercalate_cons_of_ne_nil hps.ne_nil, hv, e]
    simp
  · exact ⟨[t], .single h, List.intercalate_singleton⟩
termination_by t.length

section Split

variable {sep : Char} (hsep : bracketStep sep = 0)
include hsep

theorem splitFrom_of_not_sepAt {d : Int} {t : Text} (h : ¬ SepAt sep (-d) t) :
    splitFrom sep d t = [t] := by
  induction t generalizing d with
  | nil => rfl
  | cons c t ih =>
    rw [sepAt_cons, not_or] at h
    have hc : ¬ (c = sep ∧ d + bracketStep c = 0) := by
      rintro ⟨rfl, hd⟩
      exact h.1 ⟨rfl, by omega⟩
    rw [splitFrom, ih (by rw [show -(d + bracketStep c) = -d - bracketStep c by omega]; exact h.2)]
    simp [hc]

theorem splitFrom_append {d : Int} {p : Text} (h : ¬ SepAt sep (-d) p) (hd : d + depth p = 0)
    (rest : Text) : splitFrom sep d (p ++ sep :: rest) = p :: splitFrom sep 0 rest := by
  induction p generalizing d with
  | nil =>
    have hd : d = 0 := by simpa using hd
    cases e : splitFrom sep 0 rest with
    | nil => exact absurd e (splitFrom_ne_nil sep 0 rest)
    | cons q qs => simp [splitFrom, hsep, hd, e]
  | cons c p ih =>
    rw [sepAt_cons, not_or] at h
    have hc : ¬ (c = sep ∧ d + bracketStep c = 0) := by
      rintro ⟨rfl, hd⟩
      exact h.1 ⟨rfl, by omega⟩
    rw [depth_cons] at hd
    rw [List.cons_append, splitFrom, ih
      (by rw [show -(d + bracketStep c) = -d - bracketStep c by omega]; exact h.2) (by omega)]
    simp [hc]

theorem splitTop_intercalate {ps : List Text} (h : TopSplit sep ps) :
    splitTop sep ([sep].intercalate ps) = ps := by
  induction h with
  | @single p h =>
    rw [List.intercalate_singleton]
    exact splitFrom_of_not_sepAt hsep (by simpa using h)
  | @cons p ps h hd hps ih =>
    rw [List.intercalate_cons_of_ne_nil hps.ne_nil, List.append_assoc, List.singleton_append,
      splitTop, splitFrom_append hsep (by simpa using h) (by omega), ← splitTop, ih]

theorem topSplit_splitTop (t : Text) : TopSplit sep (splitTop sep t) := by
  obtain ⟨ps, hps, rfl⟩ := exists_topSplit sep t
  rwa [splitTop_intercalate hsep hps]

theorem intercalate_splitTop (t : Text) : [sep].intercalate (splitTop sep t) = t := by
  obtain ⟨ps, hps, rfl⟩ := exists_topSplit sep t
  rw [splitTop_intercalate hsep hps]

end Split

/-- There is one way to cut a text at separators such that every piece but the last is level and no
    separator is left in a piece behind a level beginning. -/
theorem splitTop_eq_iff {sep : Char} (hopen : sep ∉ openBrackets) (hclose : sep ∉ closeBrackets)
    {t : Text} {ps : List Text} : splitTop sep t = ps ↔
      ps ≠ [] ∧ [sep].intercalate ps = t ∧ (∀ p ∈ ps.dropLast, IsLevel p) ∧
        ∀ p ∈ ps, ∀ u v, p = u ++ sep :: v → ¬ IsLevel u := by
  have hsep : bracketStep sep = 0 := by rw [bracketStep_eq, if_neg hopen, if_neg hclose]; rfl
  constructor
  · rintro rfl
    have hsplit := topSplit_splitTop hsep t
    exact ⟨hsplit.ne_nil, intercalate_splitTop hsep t,
      fun p hp => isLevel_iff.2 (hsplit.depth_dropLast p hp),
      fun p hp => not_sepAt_zero_iff.1 (hsplit.not_sepAt p hp)⟩
  · rintro ⟨hne, rfl, hlevel, hbare⟩
    exact splitTop_intercalate hsep (.of_level hne (fun p hp => isLevel_iff.1 (hlevel p hp))
      fun p hp => not_sepAt_zero_iff.2 (hbare p hp))

theorem splitTop_eq_iff_unbalanced : '|' ∉ openBrackets ∧ '|' ∉ closeBrackets ∧
    splitTop '|' "a>|b<|c|(d|e)|f<".toList =
      ["a>|b<".toList, "c".toList, "(d|e)".toList, "f<".toList] := by
  refine ⟨by decide, by decide, (splitTop_eq_iff (by decide) (by decide)).2 ?_⟩
  refine ⟨by decide, by decide, by decide, fun p hp => not_sepAt_zero_iff.1 ?_⟩
  revert p
  decide

end DocTag.Text
