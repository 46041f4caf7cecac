import DocTag.Proofs.Blank

/-!
Patterns with named groups, matched by backtracking: the ways to match are listed in the order in
which they are tried, the first branch of an alternative before the second and another round of a
repetition before its end.
-/

namespace DocTag

inductive Pattern (ι : Type) where
  | empty
  | char (p : Char → Bool)
  | seq (a b : Pattern ι)
  | alt (a b : Pattern ι)
  | star (a : Pattern ι)
  | group (i : ι) (a : Pattern ι)

namespace Pattern

variable {ι : Type}

def opt (a : Pattern ι) : Pattern ι := .alt a .empty

def plus (a : Pattern ι) : Pattern ι := .seq a (.star a)

def word : Text → Pattern ι
  | [] => .empty
  | c :: t => .seq (.char (· == c)) (word t)

abbrev Captures (ι : Type) := List (ι × Text)

/-- The ways to match a beginning of a text, each with its captures and the rest of the text. A
    round of a repetition that matches nothing is not taken. -/
def ways : Pattern ι → Text → List (Captures ι × Text)
  | .empty, t => [([], t)]
  | .char _, [] => []
  | .char p, c :: t => if p c then [([], t)] else []
  | .seq a b, t => (ways a t).flatMap fun x => (ways b x.2).map fun y => (x.1 ++ y.1, y.2)
  | .alt a b, t => ways a t ++ ways b t
  | .star a, t =>
    ((ways a t).flatMap fun x =>
      if x.2.length < t.length then (ways (.star a) x.2).map fun y => (x.1 ++ y.1, y.2) else [])
    ++ [([], t)]
  | .group i a, t => (ways a t).map fun x => ((i, t.take (t.length - x.2.length)) :: x.1, x.2)
termination_by p t => (sizeOf p, t.length)

def full? (p : Pattern ι) (t : Text) : Option (Captures ι) :=
  (p.ways t).findSome? fun x => if x.2.isEmpty then some x.1 else none

inductive Matches : Pattern ι → Text → Captures ι → Prop
  | empty : Matches .empty [] []
  | char {p : Char → Bool} {c : Char} : p c = true → Matches (.char p) [c] []
  | seq {a b : Pattern ι} {u v : Text} {m n : Captures ι} :
      Matches a u m → Matches b v n → Matches (.seq a b) (u ++ v) (m ++ n)
  | left {a b : Pattern ι} {u : Text} {m : Captures ι} : Matches a u m → Matches (.alt a b) u m
  | right {a b : Pattern ι} {u : Text} {m : Captures ι} : Matches b u m → Matches (.alt a b) u m
  | done {a : Pattern ι} : Matches (.star a) [] []
  | round {a : Pattern ι} {u v : Text} {m n : Captures ι} :
      u ≠ [] → Matches a u m → Matches (.star a) v n → Matches (.star a) (u ++ v) (m ++ n)
  | group {i : ι} {a : Pattern ι} {u : Text} {m : Captures ι} :
      Matches a u m → Matches (.group i a) u ((i, u) :: m)

theorem taken_eq {t u rest : Text} (h : t = u ++ rest) : t.take (t.length - rest.length) = u := by
  rw [h, List.length_append, Nat.add_sub_cancel, List.take_left]

theorem matches_of_mem_ways {p : Pattern ι} {t rest : Text} {m : Captures ι}
    (h : (m, rest) ∈ p.ways t) : ∃ u, t = u ++ rest ∧ Matches p u m := by
  fun_induction ways p t generalizing m rest with
  | case1 t =>
    obtain ⟨rfl, rfl⟩ := Prod.mk.inj (List.mem_singleton.1 h)
    exact ⟨[], rfl, .empty⟩
  | case2 => cases h
  | case3 p c t hc =>
    obtain ⟨rfl, rfl⟩ := Prod.mk.inj (List.mem_singleton.1 h)
    exact ⟨[c], rfl, .char hc⟩
  | case4 => cases h
  | case5 a b t ihb iha =>
    obtain ⟨x, hx, hxy⟩ := List.mem_flatMap.1 h
    obtain ⟨y, hy, e⟩ := List.mem_map.1 hxy
    obtain ⟨rfl, rfl⟩ := Prod.mk.inj e
    obtain ⟨u, rfl, hu⟩ := iha hx
    obtain ⟨v, hv, hv'⟩ := ihb x hy
    exact ⟨u ++ v, by rw [hv, List.append_assoc], .seq hu hv'⟩
  | case6 a b t iha ihb =>
    rcases List.mem_append.1 h with h | h
    · obtain ⟨u, e, hu⟩ := iha h
      exact ⟨u, e, .left hu⟩
    · obtain ⟨u, e, hu⟩ := ihb h
      exact ⟨u, e, .right hu⟩
  | case7 a t ihs iha =>
    rcases List.mem_append.1 h with h | h
    · obtain ⟨x, hx, hxy⟩ := List.mem_flatMap.1 h
      split at hxy
      · rename_i hlt
        obtain ⟨y, hy, e⟩ := List.mem_map.1 hxy
        obtain ⟨rfl, rfl⟩ := Prod.mk.inj e
        obtain ⟨u, rfl, hu⟩ := iha hx
        obtain ⟨v, hv, hv'⟩ := ihs x hlt hy
        refine ⟨u ++ v, by rw [hv, List.append_assoc], .round ?_ hu hv'⟩
        rintro rfl
        simp at hlt
      · cases hxy
    · obtain ⟨rfl, rfl⟩ := Prod.mk.inj (List.mem_singleton.1 h)
      exact ⟨[], rfl, .done⟩
  | case8 i a t ih =>
    obtain ⟨x, hx, e⟩ := List.mem_map.1 h
    obtain ⟨rfl, rfl⟩ := Prod.mk.inj e
    obtain ⟨u, hu, hm⟩ := ih hx
    refine ⟨u, hu, ?_⟩
    rw [taken_eq hu]
    exact .group hm

theorem Matches.mem_ways {p : Pattern ι} {u : Text} {m : Captures ι} (h : Matches p u m)
    (rest : Text) : (m, rest) ∈ p.ways (u ++ rest) := by
  induction h generalizing rest with
  | empty => simp [ways]
  | char hc => simp [ways, hc]
  | @seq a b u v m n _ _ iha ihb =>
    rw [ways, List.append_assoc, List.mem_flatMap]
    exact ⟨(m, v ++ rest), iha _, List.mem_map.2 ⟨(n, rest), ihb _, rfl⟩⟩
  | left _ ih =>
    rw [ways]
    exact List.mem_append_left _ (ih rest)
  | right _ ih =>
    rw [ways]
    exact List.mem_append_right _ (ih rest)
  | done =>
    rw [ways]
    exact List.mem_append_right _ (by simp)
  | @round a u v m n hne _ _ iha ihs =>
    rw [ways, List.append_assoc]
    refine List.mem_append_left _ (List.mem_flatMap.2 ⟨(m, v ++ rest), iha _, ?_⟩)
    have hlt : (v ++ rest).length < (u ++ (v ++ rest)).length := by
      have := List.length_pos_iff.2 hne
      simp only [List.length_append]
      omega
    rw [if_pos hlt]
    exact List.mem_map.2 ⟨(n, rest), ihs _, rfl⟩
  | @group i a u m _ ih =>
    rw [ways, List.mem_map]
    exact ⟨(m, rest), ih rest, by rw [taken_eq rfl]⟩

section Full

variable {p : Pattern ι} {t : Text} {m : Captures ι}

theorem matches_of_full? (h : p.full? t = some m) : Matches p t m := by
  obtain ⟨⟨n, rest⟩, hmem, hx⟩ := List.exists_of_findSome?_eq_some h
  obtain ⟨u, rfl, hu⟩ := matches_of_mem_ways hmem
  cases rest with
  | nil =>
    obtain rfl := Option.some.inj hx
    rwa [List.append_nil]
  | cons => cases hx

theorem not_matches_of_full? (h : p.full? t = none) : ¬ Matches p t m := by
  intro hm
  have hmem := hm.mem_ways []
  rw [List.append_nil] at hmem
  cases List.findSome?_eq_none_iff.1 h _ hmem

end Full

section Language

variable {a b : Pattern ι} {u : Text} {m : Captures ι}

theorem matches_empty : Matches (.empty : Pattern ι) u m ↔ u = [] ∧ m = [] := by
  constructor
  · rintro ⟨⟩
    exact ⟨rfl, rfl⟩
  · rintro ⟨rfl, rfl⟩
    exact .empty

theorem matches_char {p : Char → Bool} :
    Matches (.char p : Pattern ι) u m ↔ (∃ c, u = [c] ∧ p c = true) ∧ m = [] := by
  constructor
  · intro h
    cases h with
    | char hc => exact ⟨⟨_, rfl, hc⟩, rfl⟩
  · rintro ⟨⟨c, rfl, hc⟩, rfl⟩
    exact .char hc

theorem matches_seq : Matches (.seq a b) u m ↔
    ∃ v w n o, u = v ++ w ∧ m = n ++ o ∧ Matches a v n ∧ Matches b w o := by
  constructor
  · intro h
    cases h with
    | seq ha hb => exact ⟨_, _, _, _, rfl, rfl, ha, hb⟩
  · rintro ⟨v, w, n, o, rfl, rfl, ha, hb⟩
    exact .seq ha hb

theorem matches_alt : Matches (.alt a b) u m ↔ Matches a u m ∨ Matches b u m := by
  constructor
  · intro h
    cases h with
    | left ha => exact .inl ha
    | right hb => exact .inr hb
  · rintro (ha | hb)
    · exact .left ha
    · exact .right hb

theorem matches_group {i : ι} :
    Matches (.group i a) u m ↔ ∃ n, m = (i, u) :: n ∧ Matches a u n := by
  constructor
  · intro h
    cases h with
    | group ha => exact ⟨_, rfl, ha⟩
  · rintro ⟨n, rfl, ha⟩
    exact .group ha

theorem matches_word {w : Text} : Matches (word w : Pattern ι) u m ↔ u = w ∧ m = [] := by
  induction w generalizing u m with
  | nil => exact matches_empty
  | cons c w ih =>
    simp only [word, matches_seq, matches_char, ih, beq_iff_eq]
    constructor
    · rintro ⟨v, w, n, o, rfl, rfl, ⟨⟨c, rfl, rfl⟩, rfl⟩, rfl, rfl⟩
      exact ⟨rfl, rfl⟩
    · rintro ⟨rfl, rfl⟩
      exact ⟨[c], w, [], [], rfl, rfl, ⟨⟨c, rfl, rfl⟩, rfl⟩, rfl, rfl⟩

theorem matches_star_char {p : Char → Bool} :
    Matches (.star (.char p) : Pattern ι) u m ↔ (∀ c ∈ u, p c = true) ∧ m = [] := by
  constructor
  · intro h
    generalize e : Pattern.star (.char p) = q at h
    induction h with
    | done => exact ⟨by simp, rfl⟩
    | round _ hround _ _ ih =>
      obtain rfl := Pattern.star.inj e
      obtain ⟨⟨c, rfl, hc⟩, rfl⟩ := matches_char.1 hround
      obtain ⟨hrest, rfl⟩ := ih rfl
      exact ⟨by simpa [hc] using hrest, rfl⟩
    | _ => cases e
  · rintro ⟨hu, rfl⟩
    induction u with
    | nil => exact .done
    | cons c u ih =>
      rw [List.forall_mem_cons] at hu
      exact .round (u := [c]) (m := []) (by simp) (.char hu.1) (ih hu.2)

end Language

section First

variable {α : Type}

/-- The first way to match a beginning of a text that can be continued. -/
def first? (p : Pattern ι) (t : Text) (k : Captures ι → Text → Option α) : Option α :=
  (p.ways t).findSome? fun x => k x.1 x.2

theorem map_full? (p : Pattern ι) (t : Text) (f : Captures ι → α) :
    (p.full? t).map f = p.first? t fun m rest => if rest.isEmpty then some (f m) else none := by
  rw [full?, first?, List.map_findSome?]
  congr
  funext x
  simp only [Function.comp_apply]
  split <;> rfl

theorem findSome?_flatMap {β γ : Type} (xs : List β) (f : β → List γ) (k : γ → Option α) :
    (xs.flatMap f).findSome? k = xs.findSome? fun x => (f x).findSome? k := by
  induction xs with
  | nil => rfl
  | cons x xs ih =>
    rw [List.flatMap_cons, List.findSome?_append, ih, List.findSome?_cons]
    cases (f x).findSome? k <;> rfl

variable (t : Text) (k : Captures ι → Text → Option α)

theorem first?_empty : first? .empty t k = k [] t := by
  simp [first?, ways]

theorem first?_seq (a b : Pattern ι) :
    first? (.seq a b) t k = first? a t fun m r => first? b r fun n q => k (m ++ n) q := by
  simp only [first?, ways, findSome?_flatMap, List.findSome?_map]
  rfl

theorem first?_alt (a b : Pattern ι) :
    first? (.alt a b) t k = (first? a t k).or (first? b t k) := by
  simp only [first?, ways, List.findSome?_append]

theorem first?_opt (a : Pattern ι) : first? (opt a) t k = (first? a t k).or (k [] t) := by
  rw [opt, first?_alt, first?_empty]

theorem first?_group (i : ι) (a : Pattern ι) :
    first? (.group i a) t k =
      first? a t fun m r => k ((i, t.take (t.length - r.length)) :: m) r := by
  simp only [first?, ways, List.findSome?_map]
  rfl

theorem first?_char_nil (p : Char → Bool) : first? (.char p) [] k = none := by
  simp [first?, ways]

theorem first?_char_cons (p : Char → Bool) (c : Char) :
    first? (.char p) (c :: t) k = if p c then k [] t else none := by
  cases h : p c <;> simp [first?, ways, h]

theorem first?_word (w : Text) :
    first? (word w) t k = (w.isPrefixOf? t).bind (k []) := by
  induction w generalizing t k with
  | nil => rw [word, first?_empty, List.isPrefixOf?]; rfl
  | cons c w ih =>
    rw [word, first?_seq]
    cases t with
    | nil => rw [first?_char_nil]; rfl
    | cons d t =>
      rw [first?_char_cons, ih, List.isPrefixOf?]
      by_cases h : d = c
      · simp [h]
      · simp [h, Ne.symm h]

theorem ways_char_cons (p : Char → Bool) (c : Char) (t : Text) :
    ways (.char p : Pattern ι) (c :: t) = if p c then [([], t)] else [] := by
  rw [ways]

theorem first?_star_char_cons (p : Char → Bool) (c : Char) :
    first? (.star (.char p)) (c :: t) k =
      if p c then (first? (.star (.char p)) t k).or (k [] (c :: t)) else k [] (c :: t) := by
  rw [first?, ways, ways_char_cons, List.findSome?_append, findSome?_flatMap]
  cases p c with
  | false => simp
  | true => simp [first?]

theorem first?_star_char {p : Char → Bool} {t : Text}
    (h : ∀ u, u ≠ [] → (∀ c ∈ u, p c = true) → k [] (t.dropWhile p) = none →
      k [] (u ++ t.dropWhile p) = none) :
    first? (.star (.char p)) t k = k [] (t.dropWhile p) := by
  induction t with
  | nil => simp [first?, ways]
  | cons c t ih =>
    rw [first?_star_char_cons]
    cases hc : p c with
    | false => simp [hc]
    | true =>
      rw [List.dropWhile_cons_of_pos hc] at h ⊢
      rw [if_pos rfl, ih h]
      cases hk : k [] (t.dropWhile p) with
      | some a => rfl
      | none =>
        have hrun : ∀ d ∈ c :: t.takeWhile p, p d = true := by
          intro d hd
          rcases List.mem_cons.1 hd with rfl | hd
          · exact hc
          · exact List.mem_takeWhile_imp hd
        have hless := h (c :: t.takeWhile p) (by simp) hrun hk
        rwa [List.cons_append, List.takeWhile_append_dropWhile] at hless

theorem first?_plus_char_nil (p : Char → Bool) : first? (plus (.char p)) [] k = none := by
  rw [plus, first?_seq, first?_char_nil]

theorem first?_plus_char_cons {p : Char → Bool} {c : Char} {t : Text}
    (h : ∀ u, u ≠ [] → (∀ d ∈ u, p d = true) → k [] (t.dropWhile p) = none →
      k [] (u ++ t.dropWhile p) = none) :
    first? (plus (.char p)) (c :: t) k = if p c then k [] (t.dropWhile p) else none := by
  rw [plus, first?_seq, first?_char_cons]
  congr 1
  exact first?_star_char k h

theorem first?_eq_none {p : Pattern ι} {t : Text}
    (h : ∀ m u rest, t = u ++ rest → Matches p u m → k m rest = none) : first? p t k = none := by
  rw [first?, List.findSome?_eq_none_iff]
  rintro ⟨m, rest⟩ hmem
  obtain ⟨u, e, hu⟩ := matches_of_mem_ways hmem
  exact h m u rest e hu

theorem first?_eq_of_unique {p : Pattern ι} {u rest : Text} {m : Captures ι} (hm : Matches p u m)
    (h : ∀ n v q, u ++ rest = v ++ q → Matches p v n → k n q ≠ none → n = m ∧ q = rest) :
    first? p (u ++ rest) k = k m rest := by
  cases hfirst : first? p (u ++ rest) k with
  | none =>
    rw [first?, List.findSome?_eq_none_iff] at hfirst
    exact (hfirst _ (hm.mem_ways rest)).symm
  | some a =>
    obtain ⟨⟨n, q⟩, hmem, ha⟩ := List.exists_of_findSome?_eq_some hfirst
    obtain ⟨v, e, hv⟩ := matches_of_mem_ways hmem
    obtain ⟨rfl, rfl⟩ := h n v q e hv (by rw [ha]; exact Option.some_ne_none a)
    exact ha.symm

end First

end Pattern

end DocTag
