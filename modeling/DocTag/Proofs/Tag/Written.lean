import DocTag.Proofs.Tag.Signature
import DocTag.Proofs.Ty.Rendering

namespace DocTag

namespace Text

theorem exists_append_of_not_mem {c : Char} {w t p q : Text} (hc : c ∉ w)
    (h : w ++ t = p ++ c :: q) : ∃ v, p = w ++ v ∧ t = v ++ c :: q := by
  rcases List.append_eq_append_iff.1 h with ⟨v, hp, ht⟩ | ⟨v, hw, hq⟩
  · exact ⟨v, hp, ht⟩
  · cases v with
    | nil => exact ⟨[], by simpa using hw.symm, by simpa using hq.symm⟩
    | cons d v =>
      obtain ⟨rfl, -⟩ := List.cons.inj hq
      simp [hw] at hc

end Text

def IsNameChar (c : Char) : Prop := isWord c = true ∨ c = '\\'

instance : DecidablePred IsNameChar := fun c =>
  inferInstanceAs (Decidable (isWord c = true ∨ c = '\\'))

theorem isTypeChar_of_isNameChar {c : Char} (h : IsNameChar c) : isTypeChar c = true := by
  rcases h with h | rfl
  · simp [isTypeChar, h]
  · decide

theorem isPlain_of_isNameChar {c : Char} (h : IsNameChar c) : IsPlain c := by
  rcases h with h | rfl
  · refine ⟨not_isBlank_of_isWord h, ?_⟩
    cases hm : isTypeMark c with
    | false => rfl
    | true =>
      have table : ∀ d ∈ ['|', '?', '[', ']', '(', ')', '<', '>', '\x7b', '\x7d'],
          isWord d = false := by decide
      rw [table c (by simpa [isTypeMark] using hm)] at h
      cases h
  · decide

namespace Method

open Text

/-- Type characters together with `n` receivers and `m` pairs of square brackets, in any order. -/
inductive Chunks : Nat → Nat → Text → Prop
  | nil : Chunks 0 0 []
  | char {n m : Nat} {c : Char} {t : Text} : isTypeChar c = true → Chunks n m t →
      Chunks n m (c :: t)
  | pair {n m : Nat} {t : Text} : Chunks n m t → Chunks n (m + 1) ('[' :: ']' :: t)
  | this {n m : Nat} {t : Text} : Chunks n m t →
      Chunks (n + 1) m ('$' :: 't' :: 'h' :: 'i' :: 's' :: t)

namespace Chunks

variable {n m : Nat} {t : Text}

theorem mem (h : Chunks n m t) {c : Char} (hc : c ∈ t) :
    isTypeChar c = true ∨ c = '$' ∨ c = '[' ∨ c = ']' := by
  induction h with
  | nil => cases hc
  | char hd _ ih =>
    rcases List.mem_cons.1 hc with rfl | hc
    · exact .inl hd
    · exact ih hc
  | @pair _ _ t _ ih =>
    rcases List.mem_append.1 (show c ∈ "[]".toList ++ t from hc) with hc | hc
    · have table : ∀ c ∈ "[]".toList, isTypeChar c = true ∨ c = '$' ∨ c = '[' ∨ c = ']' := by decide
      exact table c hc
    · exact ih hc
  | @this _ _ t _ ih =>
    rcases List.mem_append.1 (show c ∈ "$this".toList ++ t from hc) with hc | hc
    · have table : ∀ c ∈ "$this".toList,
          isTypeChar c = true ∨ c = '$' ∨ c = '[' ∨ c = ']' := by decide
      exact table c hc
    · exact ih hc

theorem append {n' m' : Nat} {t' : Text} (h : Chunks n m t) (h' : Chunks n' m' t') :
    Chunks (n + n') (m + m') (t ++ t') := by
  induction h with
  | nil => simpa using h'
  | char hc _ ih => exact .char hc ih
  | pair _ ih =>
    rw [Nat.add_right_comm]
    exact .pair ih
  | this _ ih =>
    rw [Nat.add_right_comm]
    exact .this ih

theorem of_forall (h : ∀ c ∈ t, isTypeChar c = true) : Chunks 0 0 t := by
  induction t with
  | nil => exact .nil
  | cons c t ih =>
    rw [List.forall_mem_cons] at h
    exact .char h.1 (ih h.2)

theorem of_cons {c : Char} (hc : isTypeChar c = true) (h : Chunks n m (c :: t)) : Chunks n m t := by
  cases h with
  | char _ h => exact h
  | pair => exact absurd hc (by decide)
  | this => exact absurd hc (by decide)

theorem of_append {u : Text} (hu : ∀ c ∈ u, isTypeChar c = true) (h : Chunks n m (u ++ t)) :
    Chunks n m t := by
  induction u with
  | nil => exact h
  | cons c u ih =>
    rw [List.forall_mem_cons] at hu
    exact ih hu.2 (of_cons hu.1 h)

theorem isTypeChar_of_cased {u : Text} (h : Chunks n m (u ++ t))
    (hu : ∀ c ∈ u, isUncased c = true → IsNameChar c) : ∀ c ∈ u, isTypeChar c = true := by
  intro c hc
  rcases h.mem (List.mem_append_left t hc) with h | rfl | rfl | rfl
  · exact h
  all_goals exact absurd (hu _ hc (by decide)) (by decide)

theorem of_bar {p q : Text} (h : Chunks n m (p ++ '|' :: q)) :
    ∃ n₁ m₁ n₂ m₂, Chunks n₁ m₁ p ∧ Chunks n₂ m₂ q ∧ n₁ + n₂ = n ∧ m₁ + m₂ = m := by
  generalize e : p ++ '|' :: q = t at h
  induction h generalizing p with
  | nil => simp at e
  | @char n m c t hc h ih =>
    cases p with
    | nil =>
      obtain ⟨-, rfl⟩ := List.cons.inj e
      exact ⟨0, 0, n, m, .nil, h, Nat.zero_add n, Nat.zero_add m⟩
    | cons d p =>
      obtain ⟨rfl, hrest⟩ := List.cons.inj e
      obtain ⟨n₁, m₁, n₂, m₂, hp, hq, hn, hm⟩ := ih hrest
      exact ⟨n₁, m₁, n₂, m₂, .char hc hp, hq, hn, hm⟩
  | @pair n m t h ih =>
    obtain ⟨v, rfl, hrest⟩ := exists_append_of_not_mem (w := "[]".toList) (by decide) e.symm
    obtain ⟨n₁, m₁, n₂, m₂, hp, hq, rfl, rfl⟩ := ih hrest.symm
    exact ⟨n₁, m₁ + 1, n₂, m₂, .pair hp, hq, rfl, Nat.add_right_comm m₁ 1 m₂⟩
  | @this n m t h ih =>
    obtain ⟨v, rfl, hrest⟩ := exists_append_of_not_mem (w := "$this".toList) (by decide) e.symm
    obtain ⟨n₁, m₁, n₂, m₂, hp, hq, rfl, rfl⟩ := ih hrest.symm
    exact ⟨n₁ + 1, m₁, n₂, m₂, .this hp, hq, Nat.add_right_comm n₁ 1 n₂, rfl⟩

theorem of_append_pair {u : Text} (h : Chunks n m (u ++ ['[', ']'])) :
    ∃ m', m = m' + 1 ∧ Chunks n m' u := by
  generalize e : u ++ ['[', ']'] = t at h
  induction h generalizing u with
  | nil => simp at e
  | @char n m c t hc h ih =>
    cases u with
    | nil =>
      obtain ⟨rfl, -⟩ := List.cons.inj e
      exact absurd hc (by decide)
    | cons d u =>
      obtain ⟨rfl, hrest⟩ := List.cons.inj e
      obtain ⟨m', rfl, hu⟩ := ih hrest
      exact ⟨m', rfl, .char hc hu⟩
  | @pair n m t h ih =>
    match u with
    | [] =>
      obtain rfl : [] = t := by simpa using e
      exact ⟨m, rfl, h⟩
    | [d] => simp at e
    | d :: d' :: u =>
      simp only [List.cons_append, List.cons.injEq] at e
      obtain ⟨rfl, rfl, hrest⟩ := e
      obtain ⟨m', rfl, hu⟩ := ih hrest
      exact ⟨m' + 1, rfl, .pair hu⟩
  | @this n m t h ih =>
    obtain ⟨v, rfl, hrest⟩ := exists_append_of_not_mem (w := "$this".toList) (by decide) e.symm
    obtain ⟨m', rfl, hu⟩ := ih hrest.symm
    exact ⟨m', rfl, .this hu⟩

theorem isTypeChar_of_mem (h : Chunks 0 0 t) : ∀ c ∈ t, isTypeChar c = true := by
  induction t with
  | nil => simp
  | cons c t ih =>
    cases h with
    | char hc h => exact List.forall_mem_cons.2 ⟨hc, ih h⟩

theorem exists_this (h : Chunks 1 0 t) : ∃ before after, t = before ++ "$this".toList ++ after ∧
    (∀ c ∈ before, isTypeChar c = true) ∧ ∀ c ∈ after, isTypeChar c = true := by
  induction t with
  | nil => cases h
  | cons c t ih =>
    cases h with
    | char hc h =>
      obtain ⟨before, after, rfl, hb, ha⟩ := ih h
      exact ⟨c :: before, after, rfl, List.forall_mem_cons.2 ⟨hc, hb⟩, ha⟩
    | @this _ _ t h => exact ⟨[], t, rfl, by simp, h.isTypeChar_of_mem⟩

theorem typeTail (h : Chunks 0 m t) : TypeTail t := by
  generalize e : 0 = n at h
  induction h with
  | nil => exact .nil
  | char hc _ ih => exact .char hc (ih e)
  | pair _ ih => exact .pair (ih e)
  | this => cases e

end Chunks

theorem TypeTail.exists_chunks {t : Text} (h : TypeTail t) : ∃ m, Chunks 0 m t := by
  induction h with
  | nil => exact ⟨0, .nil⟩
  | char hc _ ih =>
    obtain ⟨m, h⟩ := ih
    exact ⟨m, .char hc h⟩
  | pair _ ih =>
    obtain ⟨m, h⟩ := ih
    exact ⟨m + 1, .pair h⟩

theorem ReturnToken.ne_close {t : Text} (h : ReturnToken t) : ∀ c ∈ t, c ≠ ')' := by
  rintro c hc rfl
  exact absurd (h.mem hc) (by decide)

theorem returnToken_iff {t : Text} : ReturnToken t ↔
    Chunks 1 0 t ∨ (∃ m, Chunks 0 m t) ∧ ∃ c ∈ t.head?, isTypeChar c = true := by
  constructor
  · intro h
    cases h with
    | this hb ha => exact .inl (((Chunks.of_forall hb).append (.this .nil)).append (.of_forall ha))
    | type hc ht =>
      obtain ⟨m, hm⟩ := ht.exists_chunks
      exact .inr ⟨⟨m, .char hc hm⟩, _, rfl, hc⟩
  · rintro (h | ⟨⟨m, h⟩, c, hc, hchar⟩)
    · obtain ⟨before, after, rfl, hb, ha⟩ := h.exists_this
      exact .this hb ha
    · obtain ⟨t, rfl⟩ : ∃ rest, t = c :: rest := by
        cases t with
        | nil => cases hc
        | cons d t =>
          obtain rfl : d = c := by simpa using hc
          exact ⟨t, rfl⟩
      exact .type hchar (Chunks.of_cons hchar h).typeTail

end Method

namespace Ty

open Text

/-- What the written form of `t` has in common with `raw`, which `t` was read from. -/
structure Written (raw : Text) (t : Ty) : Prop where
  mem : ∀ c ∈ t.render, c ∈ raw ∨ IsNameChar c
  head : raw.head? ≠ some '$' → ∃ c ∈ t.render.head?, c = '\\' ∨ c = '?' ∨ c.isAlpha = true
  chunks : ∀ {n m}, Method.Chunks n m raw → Method.Chunks n m t.render
  union : t.isCompound = true → raw.BarAt 0
  static : t.render = "static".toList → t = .keyword .static

namespace Written

theorem nullable {raw : Text} {t : Ty} (h : Written raw t) :
    Written ('?' :: raw) (.nullable t) where
  mem := by
    intro c hc
    rcases List.mem_cons.1 hc with rfl | hc
    · exact .inl (by simp)
    · exact (h.mem c hc).imp (List.mem_cons_of_mem _) id
  head _ := ⟨'?', rfl, .inr (.inl rfl)⟩
  chunks hraw := absurd (hraw.mem (c := '?') (by simp)) (by decide)
  union e := by cases e
  static e := by cases (congrArg List.head? e)

theorem array {raw : Text} {t : Ty} (h : Written raw t) (hbar : ¬ (raw ++ ['[', ']']).BarAt 0) :
    Written (raw ++ ['[', ']']) (.array t) := by
  have hcompound : t.isCompound = false := by
    cases e : t.isCompound with
    | false => rfl
    | true => exact absurd (barAt_append.2 (.inl (h.union e))) hbar
  have hrender : (Ty.array t).render = t.render ++ ['[', ']'] := by
    rw [render, if_neg (by simp [hcompound])]
  constructor
  · intro c hc
    rw [hrender] at hc
    rcases List.mem_append.1 hc with hc | hc
    · exact (h.mem c hc).imp (List.mem_append_left _) id
    · exact .inl (List.mem_append_right _ hc)
  · intro hhead
    obtain ⟨c, hc, hchar⟩ := h.head (by
      intro e
      apply hhead
      rw [List.head?_append, e]
      rfl)
    refine ⟨c, ?_, hchar⟩
    rw [hrender, List.head?_append, Option.mem_def.1 hc]
    rfl
  · intro n m hraw
    obtain ⟨m, rfl, hinner⟩ := hraw.of_append_pair
    rw [hrender]
    exact (h.chunks hinner).append (.pair .nil)
  · intro e
    cases e
  · intro e
    rw [hrender] at e
    have := congrArg List.getLast? e
    simp at this

theorem mem_intercalate {ps : List Text} {ts : List Ty} (h : List.Forall₂ Written ps ts) {c : Char}
    (hc : c ∈ ['|'].intercalate (ts.map render)) : c ∈ ['|'].intercalate ps ∨ IsNameChar c := by
  induction h with
  | nil => cases hc
  | @cons p t ps ts hp hrest ih =>
    cases hrest with
    | nil =>
      rw [List.map_singleton, List.intercalate_singleton] at hc
      rw [List.intercalate_singleton]
      exact hp.mem c hc
    | @cons q u ps ts hq hrest =>
      rw [List.map_cons, List.map_cons, List.intercalate_cons_cons, List.append_assoc] at hc
      rw [List.intercalate_cons_cons, List.append_assoc]
      rcases List.mem_append.1 hc with hc | hc
      · exact (hp.mem c hc).imp (List.mem_append_left _) id
      · rcases List.mem_cons.1 hc with rfl | hc
        · exact .inl (by simp)
        · exact (ih hc).imp (fun h => List.mem_append_right p (List.mem_cons_of_mem _ h)) id

theorem chunks_intercalate {ps : List Text} {ts : List Ty} (h : List.Forall₂ Written ps ts)
    {n m : Nat} (hps : Method.Chunks n m (['|'].intercalate ps)) :
    Method.Chunks n m (['|'].intercalate (ts.map render)) := by
  induction h generalizing n m with
  | nil => exact hps
  | @cons p t ps ts hp hrest ih =>
    cases hrest with
    | nil =>
      rw [List.intercalate_singleton] at hps
      rw [List.map_singleton, List.intercalate_singleton]
      exact hp.chunks hps
    | @cons q u ps ts hq hrest =>
      rw [List.intercalate_cons_cons, List.append_assoc] at hps
      obtain ⟨n₁, m₁, n₂, m₂, hfirst, hmore, rfl, rfl⟩ := hps.of_bar
      rw [List.map_cons, List.map_cons, List.intercalate_cons_cons, List.append_assoc]
      exact (hp.chunks hfirst).append (.char (by decide) (ih hmore))

theorem compound {p q : Text} {ps : List Text} {ts : List Ty} (hsplit : TopSplit '|' (p :: q :: ps))
    (h : List.Forall₂ Written (p :: q :: ps) ts) :
    Written (['|'].intercalate (p :: q :: ps)) (.compound ts) := by
  have hrender : (Ty.compound ts).render = ['|'].intercalate (ts.map render) := by
    rw [render, renderAll_eq_map]
  cases h with
  | @cons _ t _ ts hp hrest =>
    obtain ⟨u, us, rfl⟩ : ∃ u us, ts = u :: us := by
      cases hrest with
      | cons => exact ⟨_, _, rfl⟩
    constructor
    · intro c hc
      rw [hrender] at hc
      exact mem_intercalate (.cons hp hrest) hc
    · intro hhead
      obtain ⟨c, hc, hchar⟩ := hp.head (by
        intro e
        apply hhead
        rw [List.intercalate_cons_cons, List.append_assoc, List.head?_append, e]
        rfl)
      refine ⟨c, ?_, hchar⟩
      rw [hrender, List.map_cons, List.map_cons, List.intercalate_cons_cons, List.append_assoc,
        List.head?_append, Option.mem_def.1 hc]
      rfl
    · intro n m hraw
      rw [hrender]
      exact chunks_intercalate (.cons hp hrest) hraw
    · intro _
      cases hsplit with
      | cons _ hdepth =>
        rw [List.intercalate_cons_cons, List.append_assoc, barAt_append, hdepth]
        exact .inr (barAt_cons.2 (.inl ⟨rfl, rfl⟩))
    · intro e
      have hbar : '|' ∈ (Ty.compound (t :: u :: us)).render := by
        rw [hrender, List.map_cons, List.map_cons, List.intercalate_cons_cons]
        simp
      rw [e] at hbar
      exact absurd hbar (by decide)

theorem mem_of_replaces {u full : Text} (h : Scope.Replaces IsNameChar u full) {c : Char}
    (hc : c ∈ full) : c ∈ u ∨ IsNameChar c := by
  cases h with
  | intro hlead =>
    rcases List.mem_append.1 hc with hc | hc
    · rcases hlead c hc with rfl | h
      · exact .inr (.inr rfl)
      · exact .inr h
    · exact .inl (List.mem_append_right _ hc)

theorem chunks_of_replaces {u full : Text} (h : Scope.Replaces IsNameChar u full) {n m : Nat}
    (hu : Method.Chunks n m u) : Method.Chunks n m full := by
  cases h with
  | @intro lead head rest hlead hhead =>
    have hstart : ∀ c ∈ lead, isTypeChar c = true := by
      intro c hc
      rcases hlead c hc with rfl | h
      · decide
      · exact isTypeChar_of_isNameChar h
    have hrest : Method.Chunks n m rest := hu.of_append (hu.isTypeChar_of_cased hhead)
    simpa using (Method.Chunks.of_forall hstart).append hrest

theorem this (s : Scope) : Written "$this".toList (Ty.this.qualify s) where
  mem _ hc := .inl hc
  head h := absurd rfl h
  chunks h := h
  union e := by cases e
  static e := absurd (show "$this".toList = "static".toList from e) (by decide)

theorem keyword {u : Text} {k : Keyword} (h : Keyword.ofText? u = some k) (s : Scope) :
    Written u ((Ty.keyword k).qualify s) := by
  have hword : ∀ c ∈ k.name, isWord c = true := by cases k <;> decide
  have hne : k.name ≠ [] := by cases k <;> decide
  have hcased : ∀ c ∈ u, isUncased c = true → IsNameChar c := fun c hc hu =>
    absurd hc (Keyword.not_mem_of_ofText? h hu)
  constructor
  · exact fun c hc => .inr (.inl (hword c hc))
  · intro _
    obtain ⟨c, rest, hname⟩ := List.exists_cons_of_ne_nil hne
    refine ⟨c, by simp [qualify, render, hname], .inr (.inr ?_)⟩
    exact Keyword.isAlpha_of_mem_name (k := k) (by simp [hname])
  · intro n m hraw
    rw [← List.append_nil u] at hraw
    cases hraw.of_append (hraw.isTypeChar_of_cased hcased)
    exact .of_forall fun c hc => isTypeChar_of_isNameChar (.inl (hword c hc))
  · intro e
    cases e
  · intro e
    have hstatic : some k = some Keyword.static :=
      calc
        some k = Keyword.ofText? k.name := (Keyword.ofText?_name k).symm
        _ = Keyword.ofText? Keyword.static.name := congrArg _ e
        _ = some Keyword.static := Keyword.ofText?_name _
    rw [Option.some.inj hstatic]
    rfl

theorem object {s : Scope} (hs : s.Within IsNameChar) (u : Text) :
    Written u ((Ty.object u).qualify s) := by
  obtain ⟨more, hfull⟩ := s.exists_qualify_eq u
  have hrender : ((Ty.object u).qualify s).render = '\\' :: more := hfull
  have hrep := hs.replaces u
  rw [hfull] at hrep
  constructor
  · rw [hrender]
    exact fun c hc => mem_of_replaces hrep hc
  · exact fun _ => ⟨'\\', by rw [hrender]; rfl, .inl rfl⟩
  · intro n m hraw
    rw [hrender]
    exact chunks_of_replaces hrep hraw
  · intro e
    cases e
  · intro e
    rw [hrender] at e
    cases (congrArg List.head? e)

theorem name {s : Scope} (hs : s.Within IsNameChar) (u : Text) :
    Written u ((atom u).qualify s) := by
  unfold atom
  split
  · rename_i hu
    rw [hu]
    exact .this s
  · cases h : Keyword.ofText? u with
    | some k => exact .keyword h s
    | none => exact .object hs u

end Written

theorem written_of_read? {s : Scope} (hs : s.Within IsNameChar) {raw : Text} {t : Ty}
    (h : read? raw = some t) (hraw : ∀ c ∈ raw, isBlank c = false ∧ c ≠ ')') :
    Written raw (t.qualify s) := by
  revert hraw
  have has : ∀ {raw form}, Form.ofText raw = form → (∀ c ∈ raw, isBlank c = false ∧ c ≠ ')') →
      Form.Has raw form := by
    rintro raw _ rfl hraw
    have h := Form.has_ofText raw
    rwa [(tight_of_forall fun c hc => (hraw c hc).1).trim_eq] at h
  refine read?_induction (motive := fun raw t => (∀ c ∈ raw, isBlank c = false ∧ c ≠ ')') →
    Written raw (t.qualify s)) ?_ ?_ ?_ ?_ ?_ h
  · intro raw members ts hform ih hraw
    have hhas := has hform hraw
    rw [qualify, qualifyAll_eq_map]
    cases hhas with
    | @union p q ps hsplit =>
      have hmember : ∀ r ∈ p :: q :: ps, ∀ c ∈ r, isBlank c = false ∧ c ≠ ')' := fun r hr c hc =>
        hraw c (mem_intercalate_of_mem hr hc)
      refine .compound hsplit (List.forall₂_map_right_iff.2 ?_)
      exact ((List.forall₂_and_left _ _).2 ⟨hmember, ih⟩).imp fun _ _ h => h.2 h.1
  · intro raw of t hform ih hraw
    have hhas := has hform hraw
    cases hhas with
    | nullable => exact (ih fun c hc => hraw c (List.mem_cons_of_mem _ hc)).nullable
  · intro raw of t hform ih hraw
    have hhas := has hform hraw
    cases hhas with
    | wrapped => exact absurd rfl (hraw ')' (by simp)).2
    | array hbar => exact (ih fun c hc => hraw c (List.mem_append_left _ hc)).array hbar
  · intro raw inner t hform ih hraw
    have hhas := has hform hraw
    cases hhas with
    | group => exact absurd rfl (hraw ')' (by simp)).2
  · intro raw u hform hraw
    have hhas := has hform hraw
    cases hhas with
    | name => exact .name hs raw

theorem written_of_resolve {s : Scope} (hs : s.Within IsNameChar) {raw : Text} {t : Ty}
    (h : resolve s raw = .ok t) (hraw : ∀ c ∈ raw, isBlank c = false ∧ c ≠ ')') :
    Written raw t := by
  obtain ⟨u, hread, rfl⟩ := resolve_eq_ok.1 h
  exact written_of_read? hs hread hraw

theorem Written.returnToken {raw : Text} {t : Ty} (h : Written raw t)
    (hraw : Method.ReturnToken raw) : Method.ReturnToken t.render := by
  rw [Method.returnToken_iff] at hraw ⊢
  rcases hraw with hraw | ⟨⟨m, hraw⟩, c, hc, hchar⟩
  · exact .inl (h.chunks hraw)
  · have hdollar : raw.head? ≠ some '$' := by
      intro e
      obtain rfl := Option.mem_unique hc e
      exact absurd hchar (by decide)
    obtain ⟨d, hd, hletter⟩ := h.head hdollar
    refine .inr ⟨⟨m, h.chunks hraw⟩, d, hd, ?_⟩
    -- Of the marks only a bracket could stand there, but no type is written with one in front.
    rcases (h.chunks hraw).mem (List.mem_of_head? hd) with h | rfl | rfl | rfl
    · exact h
    all_goals exact absurd hletter (by decide)

end Ty

end DocTag
