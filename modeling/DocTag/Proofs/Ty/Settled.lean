import DocTag.Proofs.Ty.Piece

/-!
Writing a type that was read gives a text in final spelling: read again in any scope it is written
as the same text.

Parentheses are taken off by their first and last characters alone, so the depth of a bar changes on
the way. What carries over is how far below zero the bars next to depth zero stand: a text without
bars at the depths from `lo` to `-1` is written without bars at these depths, and one more depth is
free where parentheses were taken off. This is the depth that the parentheses of an array of a union
need.
-/

namespace DocTag

namespace Text

/-- No bars at the depths from `lo` to `-1`. -/
def Clear (lo : Int) (t : Text) : Prop := ∀ d, lo ≤ d → d < 0 → ¬ BarAt d t

theorem Clear.mono {lo hi : Int} {t : Text} (h : t.Clear lo) (hle : lo ≤ hi) : t.Clear hi :=
  fun d hd => h d (by omega)

theorem clear_zero (t : Text) : t.Clear 0 := fun d h0 h1 => by omega

theorem clear_append_bar {lo : Int} {t u : Text} (hd : t.depth = 0) :
    Clear lo (t ++ '|' :: u) ↔ t.Clear lo ∧ u.Clear lo := by
  have step : bracketStep '|' = 0 := bracketStep_bar
  constructor
  · intro h
    constructor
    · intro d hlo hneg hbar
      exact h d hlo hneg (barAt_append.2 (.inl hbar))
    · intro d hlo hneg hbar
      refine h d hlo hneg (barAt_append.2 (.inr (barAt_cons.2 (.inr ?_))))
      rwa [hd, step, Int.sub_zero, Int.sub_zero]
  · rintro ⟨ht, hu⟩ d hlo hneg hbar
    rcases barAt_append.1 hbar with hbar | hbar
    · exact ht d hlo hneg hbar
    · rcases barAt_cons.1 hbar with ⟨-, h0⟩ | hbar
      · omega
      · rw [hd, step, Int.sub_zero, Int.sub_zero] at hbar
        exact hu d hlo hneg hbar

theorem depth_wrap {t rest : Text} (h : rest.depth = -1) : depth ('(' :: t ++ rest) = t.depth := by
  have step : bracketStep '(' = 1 := by decide
  rw [List.cons_append, depth_cons, depth_append, step, h]
  omega

theorem barAt_wrap {d : Int} {t rest : Text} (h : '|' ∉ rest) :
    BarAt d ('(' :: t ++ rest) ↔ BarAt (d - 1) t := by
  have step : bracketStep '(' = 1 := by decide
  rw [List.cons_append, barAt_cons, barAt_append, step]
  constructor
  · rintro (⟨h, -⟩ | h | h')
    · exact absurd h (by decide)
    · exact h
    · exact absurd h' (not_barAt_of_not_mem h)
  · exact fun h => .inr (.inl h)

theorem Clear.unwrap {lo : Int} {t rest : Text} (hrest : '|' ∉ rest)
    (h : Clear lo ('(' :: t ++ rest)) (h0 : ¬ BarAt 0 ('(' :: t ++ rest)) : t.Clear (lo - 1) := by
  intro d hlo hneg hbar
  rcases Int.lt_or_eq_of_le (show d + 1 ≤ 0 by omega) with hlt | heq
  · exact h (d + 1) (by omega) hlt ((barAt_wrap hrest).2 (by simpa using hbar))
  · exact h0 ((barAt_wrap hrest).2 (by rwa [show (0 : Int) - 1 = d by omega]))

theorem bracketStep_of_isBlank {c : Char} (h : isBlank c = true) : bracketStep c = 0 := by
  unfold bracketStep
  split
  · rename_i hc
    rcases hc with rfl | rfl | rfl <;> revert h <;> decide
  · split
    · rename_i hc
      rcases hc with rfl | rfl | rfl <;> revert h <;> decide
    · rfl

theorem Blank.depth {t : Text} (h : Blank t) : t.depth = 0 :=
  depth_of_forall fun c hc => bracketStep_of_isBlank (h c hc)

theorem Blank.not_barAt {t : Text} (h : Blank t) {d : Int} : ¬ BarAt d t :=
  not_barAt_of_not_mem fun hc => absurd (h _ hc) (by decide)

@[simp] theorem depth_trim (t : Text) : t.trim.depth = t.depth := by
  obtain ⟨a, b, ha, hb, e⟩ := exists_trim t
  have h := congrArg depth e
  simp only [depth_append, ha.depth, hb.depth] at h
  omega

@[simp] theorem barAt_trim {d : Int} {t : Text} : t.trim.BarAt d ↔ t.BarAt d := by
  obtain ⟨a, b, ha, hb, e⟩ := exists_trim t
  have h : t.BarAt d ↔ (a ++ t.trim ++ b).BarAt d := by rw [← e]
  rw [h, barAt_append, barAt_append, ha.depth, Int.sub_zero]
  constructor
  · exact fun h => .inl (.inr h)
  · rintro ((h | h) | h)
    · exact absurd h ha.not_barAt
    · exact h
    · exact absurd h hb.not_barAt

@[simp] theorem clear_trim {lo : Int} {t : Text} : t.trim.Clear lo ↔ t.Clear lo := by
  simp only [Clear, barAt_trim]

end Text

namespace Ty

open Text

/-- What the writing of the type `t` keeps of the text `raw` that `t` was read from. -/
structure Keeps (raw : Text) (t : Ty) : Prop where
  level : t.render.depth = raw.depth
  pieces : ∃ ps, Pieces ps ∧ ['|'].intercalate ps = t.render ∧ (t.isCompound = true → 2 ≤ ps.length)
  clear : ∀ lo ≤ 0, raw.Clear lo → t.render.Clear lo
  deeper : t.isCompound = true → ¬ raw.BarAt 0 → ∀ lo ≤ 0, raw.Clear lo → t.render.Clear (lo - 1)

theorem Keeps.of_trim {raw : Text} {t : Ty} (h : Keeps raw.trim t) : Keeps raw t where
  level := by simpa using h.level
  pieces := h.pieces
  clear := by simpa using h.clear
  deeper := by simpa using h.deeper

theorem Keeps.nullable {raw : Text} {t : Ty} (h : Keeps raw t) :
    Keeps ('?' :: raw) (.nullable t) where
  level := by rw [render, depth_cons, depth_cons, h.level]
  pieces := by
    obtain ⟨ps, hps, hjoin, -⟩ := h.pieces
    obtain ⟨qs, hqs, hjoin'⟩ := hps.nullable
    exact ⟨qs, hqs, by rw [hjoin', hjoin, render], by simp [isCompound]⟩
  clear lo hlo hclear := by
    have step : ∀ (u : Text) (d : Int), BarAt d ('?' :: u) ↔ BarAt d u := by
      intro u d
      rw [barAt_cons, show bracketStep '?' = 0 by decide, Int.sub_zero]
      simp
    have hraw : raw.Clear lo := fun d h0 h1 => by
      rw [← step]
      exact hclear d h0 h1
    intro d h0 h1
    rw [render, step]
    exact h.clear lo hlo hraw d h0 h1
  deeper := by simp [isCompound]

theorem Keeps.array_of_compound {raw inner : Text} {t : Ty} (h : Keeps inner t)
    (hc : t.isCompound = true) (hd : raw.depth = inner.depth)
    (hclear : ∀ lo ≤ 0, raw.Clear lo → t.render.Clear (lo - 1)) : Keeps raw (.array t) := by
  have hrender : (Ty.array t).render = '(' :: t.render ++ [')', '[', ']'] := by
    rw [render, if_pos hc]
  have hrest : '|' ∉ [')', '[', ']'] := by decide
  refine ⟨?_, ?_, ?_, by simp [isCompound]⟩
  · rw [hrender, depth_wrap (by decide), h.level, hd]
  · obtain ⟨ps, hps, hjoin, hlen⟩ := h.pieces
    have htwo := hlen hc
    obtain ⟨p, ps, rfl⟩ := List.exists_cons_of_ne_nil (show ps ≠ [] by rintro rfl; simp at htwo)
    obtain ⟨q, ps, rfl⟩ := List.exists_cons_of_ne_nil (show ps ≠ [] by rintro rfl; simp at htwo)
    have hbar : ¬ BarAt (-1) (['|'].intercalate (p :: q :: ps)) := by
      rw [hjoin]
      exact hclear 0 (by omega) (clear_zero raw) (-1) (by omega) (by omega)
    refine ⟨_, .single (.union hps.split hps.piece hbar), ?_, by simp [isCompound]⟩
    rw [List.intercalate_singleton, hjoin, hrender]
  · intro lo hlo hraw d h0 h1
    rw [hrender, barAt_wrap hrest]
    exact hclear lo hlo hraw (d - 1) (by omega) (by omega)

theorem Keeps.array_of_not_compound {raw inner : Text} {t : Ty} (h : Keeps inner t)
    (hc : t.isCompound = false) (hd : raw.depth = inner.depth)
    (hclear : ∀ lo ≤ 0, raw.Clear lo → t.render.Clear lo) : Keeps raw (.array t) := by
  have hrender : (Ty.array t).render = t.render ++ ['[', ']'] := by
    rw [render, if_neg (by simp [hc])]
  refine ⟨?_, ?_, ?_, by simp [isCompound]⟩
  · rw [hrender, hd, ← h.level, depth_append, show depth ['[', ']'] = 0 by decide, Int.add_zero]
  · obtain ⟨ps, hps, hjoin, -⟩ := h.pieces
    obtain ⟨qs, hqs, hjoin'⟩ := hps.array
    exact ⟨qs, hqs, by rw [hjoin', hjoin, hrender], by simp [isCompound]⟩
  · intro lo hlo hraw d h0 h1
    rw [hrender, barAt_append, not_or]
    exact ⟨hclear lo hlo hraw d h0 h1, not_barAt_of_not_mem (by decide)⟩

theorem Keeps.clear_of_array {raw of : Text} {t : Ty} (hform : Form.Has raw (.array of))
    (h : Keeps of t) (hc : t.isCompound = true) :
    ∀ lo ≤ 0, raw.Clear lo → t.render.Clear (lo - 1) := by
  -- A union of which an array is taken stood in parentheses, so that one more depth is free.
  intro lo hlo hraw
  cases hform with
  | wrapped hbar => exact h.clear (lo - 1) (by omega) (hraw.unwrap (by decide) hbar)
  | array hbar =>
    have hof : ∀ d, BarAt d of → BarAt d (of ++ ['[', ']']) :=
      fun d hb => barAt_append.2 (.inl hb)
    exact h.deeper hc (fun hb => hbar (hof 0 hb)) lo hlo fun d h0 h1 hb => hraw d h0 h1 (hof d hb)

theorem Keeps.array {raw of : Text} {t : Ty} (hform : Form.Has raw (.array of)) (h : Keeps of t) :
    Keeps raw (.array t) := by
  have hd : raw.depth = of.depth := by
    cases hform with
    | wrapped => exact depth_wrap (by decide)
    | array => rw [depth_append, show depth ['[', ']'] = 0 by decide, Int.add_zero]
  cases hc : t.isCompound with
  | true => exact h.array_of_compound hc hd (h.clear_of_array hform hc)
  | false =>
    refine h.array_of_not_compound hc hd fun lo hlo hraw => ?_
    cases hform with
    | wrapped hbar =>
      exact (h.clear (lo - 1) (by omega) (hraw.unwrap (by decide) hbar)).mono (by omega)
    | array => exact h.clear lo hlo fun d h0 h1 hb => hraw d h0 h1 (barAt_append.2 (.inl hb))

theorem Keeps.group {inner : Text} {t : Ty} (hbar : ¬ BarAt 0 ('(' :: inner ++ [')']))
    (h : Keeps inner t) : Keeps ('(' :: inner ++ [')']) t where
  level := by rw [depth_wrap (by decide), h.level]
  pieces := h.pieces
  clear lo hlo hraw :=
    (h.clear (lo - 1) (by omega) (hraw.unwrap (by decide) hbar)).mono (by omega)
  deeper _ _ lo hlo hraw := h.clear (lo - 1) (by omega) (hraw.unwrap (by decide) hbar)

theorem Keeps.intercalate {members : List Text} {ts : List Ty} (hs : TopSplit '|' members)
    (h : List.Forall₂ Keeps members ts) :
    depth (['|'].intercalate (ts.map render)) = depth (['|'].intercalate members) ∧
    (∃ ps, Pieces ps ∧ ['|'].intercalate ps = ['|'].intercalate (ts.map render) ∧
      ts.length ≤ ps.length) ∧
    ∀ lo ≤ 0, Clear lo (['|'].intercalate members) →
      Clear lo (['|'].intercalate (ts.map render)) := by
  -- Members are level but for the last, so that bars and depths of a union are those of its
  -- members.
  induction hs generalizing ts with
  | @single p =>
    obtain ⟨t, us, hp, hus, rfl⟩ := List.forall₂_cons_left_iff.1 h
    obtain rfl := List.forall₂_nil_left_iff.1 hus
    obtain ⟨ps, hps, hjoin, -⟩ := hp.pieces
    rw [List.map_singleton, List.intercalate_singleton, List.intercalate_singleton]
    refine ⟨hp.level, ⟨ps, hps, hjoin, ?_⟩, hp.clear⟩
    exact List.length_pos_iff.2 hps.split.ne_nil
  | @cons p members _ hd hs ih =>
    obtain ⟨t, us, hp, hus, rfl⟩ := List.forall₂_cons_left_iff.1 h
    obtain ⟨hlevel, ⟨qs, hqs, hjoin', hlen⟩, hclear⟩ := ih hus
    obtain ⟨ps, hps, hjoin, -⟩ := hp.pieces
    have hne : us.map render ≠ [] := by
      intro e
      have hlength := hus.length_eq
      rw [List.map_eq_nil_iff.1 e, List.length_nil, List.length_eq_zero_iff] at hlength
      exact hs.ne_nil hlength
    have htd : t.render.depth = 0 := by rw [hp.level, hd]
    rw [List.map_cons, List.intercalate_cons_of_ne_nil hne,
      List.intercalate_cons_of_ne_nil hs.ne_nil]
    refine ⟨?_, ⟨ps ++ qs, hps.append (by rw [hjoin, htd]) hqs, ?_, ?_⟩, ?_⟩
    · simp only [depth_append, hp.level, hlevel]
    · rw [intercalate_append hps.split.ne_nil hqs.split.ne_nil, hjoin, hjoin']
    · have := List.length_pos_iff.2 hps.split.ne_nil
      rw [List.length_cons, List.length_append]
      omega
    · intro lo hlo hraw
      rw [List.append_assoc, List.singleton_append, clear_append_bar hd] at hraw
      rw [List.append_assoc, List.singleton_append, clear_append_bar htd]
      exact ⟨hp.clear lo hlo hraw.1, hclear lo hlo hraw.2⟩

theorem Keeps.union {p q : Text} {members : List Text} {ts : List Ty}
    (hs : TopSplit '|' (p :: q :: members)) (h : List.Forall₂ Keeps (p :: q :: members) ts) :
    Keeps (['|'].intercalate (p :: q :: members)) (.compound ts) := by
  obtain ⟨hlevel, ⟨ps, hps, hjoin, hlen⟩, hclear⟩ := Keeps.intercalate hs h
  have hrender : (Ty.compound ts).render = ['|'].intercalate (ts.map render) := by
    rw [render, renderAll_eq_map]
  rw [← hrender] at hlevel hjoin hclear
  refine ⟨hlevel, ⟨ps, hps, hjoin, fun _ => ?_⟩, hclear, fun _ hbar => ?_⟩
  · have := h.length_eq
    simp only [List.length_cons] at this
    omega
  · cases hs with
    | cons _ hd =>
      refine absurd ⟨p, ['|'].intercalate (q :: members), ?_, hd⟩ hbar
      simp

end Ty

end DocTag
