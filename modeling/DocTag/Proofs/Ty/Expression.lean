import DocTag.Proofs.Trailing
import DocTag.Proofs.Ty.Rendering

/-!
Type expressions and their writings. `[]` binds more tightly than `?`, and that than `|`. What binds
less tightly than its place asks for stands in parentheses, and blanks may stand around every part.
All writings of an expression are resolved to its meaning.
-/

namespace DocTag

namespace Text

abbrev SameCore (t u : Text) : Prop := t.trim = u.trim

theorem SameCore.depth_eq {t u : Text} (h : SameCore t u) : t.depth = u.depth := by
  rw [← depth_trim t, h, depth_trim]

theorem SameCore.barAt_iff {t u : Text} (h : SameCore t u) {d : Int} : BarAt d t ↔ BarAt d u := by
  rw [← barAt_trim (t := t), h, barAt_trim]

theorem TopSplit.of_sameCore {ps qs : List Text} (hs : TopSplit '|' ps)
    (h : List.Forall₂ SameCore ps qs) : TopSplit '|' qs := by
  induction hs generalizing qs with
  | single hbar =>
    obtain ⟨q, rest, hq, hrest, rfl⟩ := List.forall₂_cons_left_iff.1 h
    obtain rfl := List.forall₂_nil_left_iff.1 hrest
    exact .single fun hb => hbar (hq.barAt_iff.2 hb)
  | cons hbar hdepth _ ih =>
    obtain ⟨q, rest, hq, hrest, rfl⟩ := List.forall₂_cons_left_iff.1 h
    exact .cons (fun hb => hbar (hq.barAt_iff.2 hb)) (hq.depth_eq ▸ hdepth) (ih hrest)

theorem exists_trimEnd_intercalate {sep : Char} (hsep : isBlank sep = false) (ps : List Text) :
    ∃ qs, [sep].intercalate qs = trimEnd ([sep].intercalate ps) ∧ List.Forall₂ SameCore ps qs := by
  induction ps with
  | nil => exact ⟨[], rfl, .nil⟩
  | cons p ps ih =>
    cases ps with
    | nil => exact ⟨[p.trimEnd], by simp, .cons (trim_trimEnd p).symm .nil⟩
    | cons q ps =>
      obtain ⟨qs, hjoin, hqs⟩ := ih
      have hne : qs ≠ [] := by
        rintro rfl
        cases hqs
      refine ⟨p :: qs, ?_, .cons rfl hqs⟩
      rw [List.intercalate_cons_of_ne_nil hne, hjoin, List.intercalate_cons_cons,
        List.append_assoc, List.append_assoc, List.singleton_append, List.singleton_append,
        trimEnd_append_cons hsep]

theorem exists_trim_intercalate {sep : Char} (hsep : isBlank sep = false) (ps : List Text) :
    ∃ qs, [sep].intercalate qs = trim ([sep].intercalate ps) ∧ List.Forall₂ SameCore ps qs := by
  cases ps with
  | nil => exact ⟨[], rfl, .nil⟩
  | cons p ps =>
    have hstart :
        [sep].intercalate (p.trimStart :: ps) = trimStart ([sep].intercalate (p :: ps)) := by
      cases ps with
      | nil => simp
      | cons q ps => simp only [List.intercalate_cons_cons, List.append_assoc,
          List.singleton_append, trimStart_append_cons hsep]
    obtain ⟨qs, hjoin, hqs⟩ := exists_trimEnd_intercalate hsep (p.trimStart :: ps)
    refine ⟨qs, by rw [hjoin, hstart, trim], ?_⟩
    obtain ⟨q, rest, hq, hrest, rfl⟩ := List.forall₂_cons_left_iff.1 hqs
    exact .cons ((trim_trimStart p).symm.trans hq) hrest

end Text

namespace Keyword

def names : Keyword → List Text
  | .int => [name .int, "integer".toList]
  | .bool => [name .bool, "boolean".toList]
  | .float => [name .float, "double".toList]
  | k => [k.name]

theorem ofText?_eq_some_iff {t : Text} {k : Keyword} : ofText? t = some k ↔ t.lower ∈ k.names := by
  have table : ∀ pair ∈ spellings, pair.1 ∈ pair.2.names := by decide
  refine ⟨fun h => table _ (mem_spellings h), fun h => ?_⟩
  have found : ∀ name ∈ k.names, spellings.lookup name = some k := by cases k <;> decide
  exact found _ h

theorem ofText?_eq_none_iff {t : Text} : ofText? t = none ↔ ∀ k : Keyword, t.lower ∉ k.names := by
  simp only [Option.eq_none_iff_forall_ne_some, ne_eq, ofText?_eq_some_iff]

end Keyword

namespace Ty

open Text

theorem Form.Has.ofText_of_trim {raw : Text} {form : Form} (h : Has raw.trim form) :
    ofText raw = form := by
  rw [← h.ofText_eq (tight_trim raw), ofText, ofText, trim_trim]

theorem read?_of_sameCore {t u : Text} (h : SameCore t u) : read? t = read? u := by
  rw [read?_eq, read?_eq, Form.ofText, Form.ofText, h]

section Composed

variable {t : Text}

theorem read?_nullable (h : ¬ BarAt 0 t) : read? ('?' :: t) = (read? t).map .nullable := by
  have htrim : trim ('?' :: t) = '?' :: t.trimEnd := by
    rw [trim, trimStart_eq_self (by rintro _ ⟨⟩; rfl)]
    exact trimEnd_append_cons rfl [] t
  have hbar : ¬ BarAt 0 ('?' :: t.trimEnd) := by
    rw [← htrim, barAt_trim, barAt_cons, not_or]
    exact ⟨by decide, h⟩
  have hform : Form.ofText ('?' :: t) = .nullable t.trimEnd :=
    Form.Has.ofText_of_trim (htrim ▸ .nullable hbar)
  simp only [read?_eq ('?' :: t), hform, read?_of_sameCore (trim_trimEnd t)]

theorem read?_group (h : ¬ BarAt (-1) t) : read? ('(' :: t ++ [')']) = read? t := by
  have hbar : ¬ BarAt 0 ('(' :: t ++ [')']) := by rwa [barAt_wrap (by decide)]
  have htight : Tight ('(' :: t ++ [')']) := by
    refine ⟨by rintro _ ⟨⟩; rfl, ?_⟩
    rw [List.getLast?_append_of_ne_nil _ (by simp)]
    rintro _ ⟨⟩
    rfl
  rw [read?_eq, (Form.Has.group hbar).ofText_eq htight]

theorem read?_array (h : ¬ BarAt 0 t) (hhead : t.trim.head? ≠ some '?') :
    read? (t ++ ['[', ']']) = (read? t).map .array := by
  have htrim : trim (t ++ ['[', ']']) = t.trimStart ++ ['[', ']'] := by
    rw [trim, trimStart_append_cons rfl]
    exact trimEnd_append_cons rfl _ _
  have hbar : ¬ BarAt 0 (t.trimStart ++ ['[', ']']) := by
    rw [← htrim, barAt_trim, barAt_append, not_or]
    exact ⟨h, not_barAt_of_not_mem (by decide)⟩
  have hstart : read? t.trimStart = read? t := read?_of_sameCore (trim_trimStart t)
  cases hu : t.trimStart.unwrap? with
  | some inner =>
    obtain hwrap := unwrap?_eq_some.1 hu
    have hinner : ¬ BarAt (-1) inner := by
      rw [SameCore.barAt_iff (trim_trimStart t).symm, hwrap, barAt_wrap (by decide)] at h
      exact h
    have hform : Form.ofText (t ++ ['[', ']']) = .array inner := by
      refine Form.Has.ofText_of_trim ?_
      rw [hwrap] at htrim hbar
      rw [htrim]
      simpa using Form.Has.wrapped (t := inner) (by simpa using hbar)
    simp only [read?_eq (t ++ ['[', ']']), hform, ← hstart, hwrap, read?_group hinner]
  | none =>
    rw [head?_trim] at hhead
    have hform : Form.ofText (t ++ ['[', ']']) = .array t.trimStart :=
      Form.Has.ofText_of_trim (htrim ▸ .array hbar hhead hu)
    simp only [read?_eq (t ++ ['[', ']']), hform, hstart]

theorem read?_union {ps : List Text} (hs : TopSplit '|' ps) (hlength : 2 ≤ ps.length) :
    read? (['|'].intercalate ps) = (ps.mapM read?).map .compound := by
  obtain ⟨qs, hjoin, hqs⟩ := exists_trim_intercalate (show isBlank '|' = false from rfl) ps
  have hmap : qs.mapM read? = ps.mapM read? := by
    clear hs hlength hjoin
    induction hqs with
    | nil => rfl
    | cons h _ ih => rw [List.mapM_cons, List.mapM_cons, read?_of_sameCore h, ih]
  have hsplit := hs.of_sameCore hqs
  rw [hqs.length_eq] at hlength
  obtain ⟨p, q, rest, rfl⟩ : ∃ p q rest, qs = p :: q :: rest := by
    match qs, hlength with
    | p :: q :: rest, _ => exact ⟨p, q, rest, rfl⟩
  have hform : Form.ofText (['|'].intercalate ps) = .union (p :: q :: rest) :=
    Form.Has.ofText_of_trim (hjoin ▸ .union hsplit)
  simp only [read?_eq (['|'].intercalate ps), hform, hmap]

end Composed

inductive Level where
  | operand
  | nullable
  | union

inductive Expr where
  | receiver
  | keyword (k : Keyword)
  | name (t : Text)
  | array (of : Expr)
  | nullable (of : Expr)
  | group (inner : Expr)
  | union (members : List Expr)

mutual

def Expr.meaning (s : Scope) : Expr → Ty
  | .receiver => .this
  | .keyword k => .keyword k
  | .name t => .object (s.qualify t)
  | .array of => .array (of.meaning s)
  | .nullable of => .nullable (of.meaning s)
  | .group inner => inner.meaning s
  | .union members => .compound (Expr.meaningAll s members)

def Expr.meaningAll (s : Scope) : List Expr → List Ty
  | [] => []
  | e :: es => e.meaning s :: Expr.meaningAll s es

end

@[simp] theorem Expr.meaningAll_eq_map (s : Scope) (es : List Expr) :
    meaningAll s es = es.map (meaning s) := by
  induction es with
  | nil => rfl
  | cons e es ih => simp [meaningAll, ih]

structure Balanced (t : Text) : Prop where
  closed : t.depth = 0
  opened : ∀ u : Text, u <+: t → 0 ≤ u.depth

inductive GroupMarks : Char → Char → Prop
  | angles : GroupMarks '<' '>'
  | braces : GroupMarks '\x7b' '\x7d'

inductive IsAtom : Text → Prop
  | word {head : Text} : head ≠ [] → (∀ c ∈ head, IsPlain c) → IsAtom head
  | grouped {head group : Text} {l r : Char} : head ≠ [] → (∀ c ∈ head, IsPlain c) →
      Balanced group → GroupMarks l r → IsAtom (head ++ l :: group ++ [r])

theorem depth_of_plain {t : Text} (h : ∀ c ∈ t, IsPlain c) : t.depth = 0 :=
  depth_of_forall fun c hc => bracketStep_of_not_isTypeMark (h c hc).2

theorem not_barAt_of_plain {t : Text} {d : Int} (h : ∀ c ∈ t, IsPlain c) : ¬ BarAt d t :=
  not_barAt_of_not_mem fun hmem => absurd (h _ hmem).2 (by decide)

theorem Balanced.nonneg_of_barAt {t : Text} {d : Int} (h : Balanced t) (hbar : BarAt d t) :
    0 ≤ d := by
  obtain ⟨u, v, rfl, hu⟩ := hbar
  rw [← hu]
  exact h.opened u (List.prefix_append u _)

namespace IsAtom

variable {t : Text}

theorem exists_cons (h : IsAtom t) : ∃ c rest, t = c :: rest ∧ IsPlain c := by
  cases h with
  | word hne hhead =>
    obtain ⟨c, rest, rfl⟩ := List.exists_cons_of_ne_nil hne
    exact ⟨c, rest, rfl, hhead c (by simp)⟩
  | grouped hne hhead =>
    obtain ⟨c, rest, rfl⟩ := List.exists_cons_of_ne_nil hne
    exact ⟨c, _, rfl, hhead c (by simp)⟩

theorem getLast? (h : IsAtom t) : ∀ c ∈ t.getLast?, isBlank c = false ∧ c ≠ ']' := by
  cases h with
  | word _ hhead =>
    intro c hc
    obtain ⟨hblank, hmark⟩ := hhead c (List.mem_of_getLast? hc)
    refine ⟨hblank, ?_⟩
    rintro rfl
    cases hmark
  | grouped _ _ _ hmarks =>
    rw [List.getLast?_append_of_ne_nil _ (by simp)]
    rintro _ ⟨⟩
    cases hmarks <;> decide

theorem tight (h : IsAtom t) : t.Tight := by
  refine ⟨?_, fun c hc => (h.getLast? c hc).1⟩
  obtain ⟨c, rest, rfl, hc⟩ := h.exists_cons
  rintro _ ⟨⟩
  exact hc.1

theorem depth_eq (h : IsAtom t) : t.depth = 0 := by
  cases h with
  | word _ hhead => exact depth_of_plain hhead
  | @grouped head group l r _ hhead hgroup hmarks =>
    have hsteps : bracketStep l + bracketStep r = 0 := by cases hmarks <;> decide
    simp only [depth_append, depth_cons, depth_nil, depth_of_plain hhead, hgroup.closed]
    omega

theorem one_le_of_barAt (h : IsAtom t) {d : Int} (hbar : BarAt d t) : 1 ≤ d := by
  -- Bars stand in the group only.
  cases h with
  | word _ hhead => exact absurd hbar (not_barAt_of_plain hhead)
  | @grouped head group l r _ hhead hgroup hmarks =>
    have hl : l ≠ '|' ∧ bracketStep l = 1 := by cases hmarks <;> decide
    have hr : '|' ∉ [r] := by cases hmarks <;> decide
    rw [barAt_append, or_iff_left (not_barAt_of_not_mem hr), barAt_append,
      or_iff_right (not_barAt_of_plain hhead), barAt_cons, depth_of_plain hhead, hl.2] at hbar
    rcases hbar with ⟨hl', -⟩ | hbar
    · exact absurd hl' hl.1
    · have := hgroup.nonneg_of_barAt hbar
      omega

theorem read?_eq (h : IsAtom t) : read? t = some (Ty.atom t) := by
  have hhead : ∀ {c}, isTypeMark c = true → t.head? ≠ some c := by
    intro c hc e
    obtain ⟨d, rest, rfl, hd⟩ := h.exists_cons
    cases e
    rw [hd.2] at hc
    cases hc
  have hform : Form.Has t (.name t) := by
    refine .name (fun hbar => ?_) ?_ (hhead (by decide)) ?_ ?_
    · have := h.one_le_of_barAt hbar
      omega
    · obtain ⟨c, rest, rfl, -⟩ := h.exists_cons
      simp
    · rintro u rfl
      exact (h.getLast? ']' (by simp)).2 rfl
    · rw [unwrap?_eq_none]
      rintro inner rfl
      exact hhead (c := '(') (by decide) rfl
  rw [Ty.read?_eq, hform.ofText_eq h.tight]

end IsAtom

/-- The texts that an expression is written as. One that binds less tightly than a level asks for
    has no writing there but in parentheses. -/
inductive Writing : Level → Expr → Text → Prop
  | receiver : Writing .operand .receiver "$this".toList
  | keyword {k : Keyword} {t : Text} :
      IsAtom t → t.lower ∈ k.names → Writing .operand (.keyword k) t
  | name {t : Text} : IsAtom t → t ≠ "$this".toList → (∀ k : Keyword, t.lower ∉ k.names) →
      Writing .operand (.name t) t
  | array {e : Expr} {t : Text} :
      Writing .operand e t → Writing .operand (.array e) (t ++ ['[', ']'])
  | group {e : Expr} {t : Text} :
      Writing .union e t → Writing .operand (.group e) ('(' :: t ++ [')'])
  | operand {e : Expr} {t : Text} : Writing .operand e t → Writing .nullable e t
  | nullable {e : Expr} {t : Text} :
      Writing .nullable e t → Writing .nullable (.nullable e) ('?' :: t)
  | single {e : Expr} {t : Text} : Writing .nullable e t → Writing .union e t
  | union {ms : List (Expr × Text)} : 2 ≤ ms.length → (∀ m ∈ ms, Writing .nullable m.1 m.2) →
      Writing .union (.union (ms.map Prod.fst)) (['|'].intercalate (ms.map Prod.snd))
  | blanks {level : Level} {e : Expr} {a t b : Text} : a.Blank → b.Blank → Writing level e t →
      Writing level e (a ++ t ++ b)

/-- What can be seen of a writing from outside: its brackets are closed, no bar stands where more
    are closed than were opened, and outside of all brackets one stands in a union only. -/
structure Sound (level : Level) (t : Text) : Prop where
  closed : t.depth = 0
  clear : ∀ lo, t.Clear lo
  bar : level ≠ .union → ¬ BarAt 0 t
  head : level = .operand → t.trim.head? ≠ some '?'

namespace Sound

variable {level : Level} {t : Text}

theorem of_sameCore {u : Text} (h : Sound level t) (htu : SameCore t u) : Sound level u where
  closed := htu.depth_eq ▸ h.closed
  clear lo d hlo hneg hbar := h.clear lo d hlo hneg (htu.barAt_iff.2 hbar)
  bar hlevel hbar := h.bar hlevel (htu.barAt_iff.2 hbar)
  head hlevel := htu ▸ h.head hlevel

theorem array (h : Sound .operand t) : Sound .operand (t ++ ['[', ']']) where
  closed := by rw [depth_append, h.closed]; rfl
  clear lo d hlo hneg hbar := by
    rw [barAt_append, or_iff_left (not_barAt_of_not_mem (by decide))] at hbar
    exact h.clear lo d hlo hneg hbar
  bar _ hbar := by
    rw [barAt_append, or_iff_left (not_barAt_of_not_mem (by decide))] at hbar
    exact h.bar nofun hbar
  head _ := by
    have hhead := h.head rfl
    rw [head?_trim] at hhead
    rw [head?_trim, trimStart_append_cons rfl]
    cases e : t.trimStart with
    | nil => simp
    | cons c rest => simpa [e] using hhead

theorem group (h : Sound .union t) : Sound .operand ('(' :: t ++ [')']) where
  closed := by rw [depth_wrap (by decide), h.closed]
  clear lo d hlo hneg hbar := by
    rw [barAt_wrap (by decide)] at hbar
    exact h.clear (lo - 1) (d - 1) (by omega) (by omega) hbar
  bar _ hbar := by
    rw [barAt_wrap (by decide)] at hbar
    exact h.clear (-1) (0 - 1) (by omega) (by omega) hbar
  head _ := by
    rw [head?_trim, trimStart_eq_self (by rintro _ ⟨⟩; rfl)]
    simp

theorem nullable (h : Sound .nullable t) : Sound .nullable ('?' :: t) := by
  have hstep : ∀ d, BarAt d ('?' :: t) ↔ BarAt d t := by
    intro d
    rw [barAt_cons, show bracketStep '?' = 0 by decide, Int.sub_zero]
    simp
  refine ⟨by rw [depth_cons, h.closed]; rfl, fun lo d hlo hneg hbar => ?_, fun _ hbar => ?_, nofun⟩
  · exact h.clear lo d hlo hneg ((hstep d).1 hbar)
  · exact h.bar nofun ((hstep 0).1 hbar)

theorem topSplit {ts : List Text} (hne : ts ≠ []) (h : ∀ t ∈ ts, Sound .nullable t) :
    TopSplit '|' ts := by
  induction ts with
  | nil => contradiction
  | cons t ts ih =>
    rw [List.forall_mem_cons] at h
    cases ts with
    | nil => exact .single (h.1.bar nofun)
    | cons u us => exact .cons (h.1.bar nofun) h.1.closed (ih (by simp) h.2)

theorem union {ts : List Text} (h : ∀ t ∈ ts, Sound .nullable t) :
    Sound .union (['|'].intercalate ts) := by
  suffices hjoin : depth (['|'].intercalate ts) = 0 ∧ ∀ lo, Clear lo (['|'].intercalate ts) from
    ⟨hjoin.1, hjoin.2, fun hlevel => absurd rfl hlevel, nofun⟩
  induction ts with
  | nil => exact ⟨rfl, fun _ _ _ _ => not_sepAt_nil⟩
  | cons t ts ih =>
    rw [List.forall_mem_cons] at h
    cases ts with
    | nil =>
      rw [List.intercalate_singleton]
      exact ⟨h.1.closed, h.1.clear⟩
    | cons u us =>
      obtain ⟨hdepth, hclear⟩ := ih h.2
      rw [List.intercalate_cons_cons, List.append_assoc, List.singleton_append]
      refine ⟨?_, fun lo => (clear_append_bar h.1.closed).2 ⟨h.1.clear lo, hclear lo⟩⟩
      rw [depth_append, depth_cons, h.1.closed, hdepth]
      rfl

theorem atom (h : IsAtom t) : Sound .operand t where
  closed := h.depth_eq
  clear lo d hlo hneg hbar := by
    have := h.one_le_of_barAt hbar
    omega
  bar _ hbar := by
    have := h.one_le_of_barAt hbar
    omega
  head _ := by
    obtain ⟨c, rest, rfl, hc⟩ := h.exists_cons
    rw [h.tight.trim_eq]
    rintro ⟨⟩
    exact absurd hc.2 (by decide)

end Sound

theorem atom_of_mem_names {k : Keyword} {t : Text} (h : t.lower ∈ k.names) :
    Ty.atom t = .keyword k := by
  have hreceiver : t ≠ "$this".toList := by
    rintro rfl
    revert h
    cases k <;> decide
  rw [Ty.atom, if_neg hreceiver, Keyword.ofText?_eq_some_iff.2 h]

theorem atom_of_not_mem_names {t : Text} (hreceiver : t ≠ "$this".toList)
    (h : ∀ k : Keyword, t.lower ∉ k.names) : Ty.atom t = .object t := by
  rw [Ty.atom, if_neg hreceiver, Keyword.ofText?_eq_none_iff.2 h]

namespace Writing

variable {level : Level} {e : Expr} {t : Text}

theorem sound (h : Writing level e t) : Sound level t := by
  induction h with
  | receiver => exact .atom (.word (by decide) (by decide))
  | keyword ht => exact .atom ht
  | name ht => exact .atom ht
  | array _ ih => exact ih.array
  | group _ ih => exact ih.group
  | operand _ ih => exact ⟨ih.closed, ih.clear, fun _ => ih.bar nofun, nofun⟩
  | nullable _ ih => exact ih.nullable
  | single _ ih => exact ⟨ih.closed, ih.clear, fun h => absurd rfl h, nofun⟩
  | union _ _ ih => exact .union (List.forall_mem_map.2 ih)
  | blanks ha hb _ ih =>
    refine ih.of_sameCore ?_
    rw [SameCore, trim_append_blank _ hb, trim_append_of_blank ha]

theorem exists_mapM_read? {ms : List (Expr × Text)}
    (h : ∀ m ∈ ms, ∃ u, read? m.2 = some u ∧ ∀ s, u.qualify s = m.1.meaning s) :
    ∃ us, (ms.map Prod.snd).mapM read? = some us ∧
      ∀ s, us.map (qualify s) = (ms.map Prod.fst).map (Expr.meaning s) := by
  induction ms with
  | nil => exact ⟨[], rfl, fun _ => rfl⟩
  | cons m ms ih =>
    rw [List.forall_mem_cons] at h
    obtain ⟨u, hread, hmeaning⟩ := h.1
    obtain ⟨us, hreads, hmeanings⟩ := ih h.2
    refine ⟨u :: us, ?_, fun s => ?_⟩
    · simp [List.mapM_cons, hread, hreads]
    · simp only [List.map_cons, hmeaning, hmeanings]

theorem exists_read? (h : Writing level e t) :
    ∃ u, read? t = some u ∧ ∀ s, u.qualify s = e.meaning s := by
  induction h with
  | receiver =>
    have hatom : IsAtom "$this".toList := .word (by decide) (by decide)
    exact ⟨.this, hatom.read?_eq, fun _ => rfl⟩
  | @keyword k t ht hk =>
    refine ⟨.keyword k, ?_, fun _ => rfl⟩
    rw [ht.read?_eq, atom_of_mem_names hk]
  | @name t ht hreceiver hk =>
    refine ⟨.object t, ?_, fun _ => rfl⟩
    rw [ht.read?_eq, atom_of_not_mem_names hreceiver hk]
  | array h ih =>
    obtain ⟨u, hread, hmeaning⟩ := ih
    refine ⟨.array u, ?_, fun s => congrArg Ty.array (hmeaning s)⟩
    rw [read?_array (h.sound.bar nofun) (h.sound.head rfl), hread, Option.map_some]
  | group h ih =>
    obtain ⟨u, hread, hmeaning⟩ := ih
    refine ⟨u, ?_, hmeaning⟩
    rw [read?_group (h.sound.clear (-1) (-1) (by omega) (by omega)), hread]
  | operand _ ih => exact ih
  | nullable h ih =>
    obtain ⟨u, hread, hmeaning⟩ := ih
    refine ⟨.nullable u, ?_, fun s => congrArg Ty.nullable (hmeaning s)⟩
    rw [read?_nullable (h.sound.bar nofun), hread, Option.map_some]
  | single _ ih => exact ih
  | @union ms hlength h ih =>
    obtain ⟨us, hread, hmeaning⟩ := exists_mapM_read? ih
    have hne : ms.map Prod.snd ≠ [] := by
      rintro e
      rw [List.map_eq_nil_iff.1 e] at hlength
      simp at hlength
    have hsplit : TopSplit '|' (ms.map Prod.snd) :=
      Sound.topSplit hne (List.forall_mem_map.2 fun m hm => (h m hm).sound)
    refine ⟨.compound us, ?_, fun s => ?_⟩
    · rw [read?_union hsplit (by simpa using hlength), hread, Option.map_some]
    · rw [qualify, qualifyAll_eq_map, hmeaning, Expr.meaning, Expr.meaningAll_eq_map]
  | @blanks level e a t b ha hb _ ih =>
    obtain ⟨u, hread, hmeaning⟩ := ih
    refine ⟨u, ?_, hmeaning⟩
    rw [read?_of_sameCore (u := t), hread]
    rw [SameCore, trim_append_blank _ hb, trim_append_of_blank ha]

end Writing

/-- Every writing of an expression is resolved to the meaning of the expression, in every scope. -/
theorem resolve_writing {level : Level} {e : Expr} {t : Text} (h : Writing level e t) (s : Scope) :
    resolve s t = .ok (e.meaning s) := by
  obtain ⟨u, hread, hmeaning⟩ := h.exists_read?
  exact resolve_eq_ok.2 ⟨u, hread, hmeaning s⟩

theorem resolve_writing_nested :
    let s : Scope := ⟨"App".toList, [("foo".toList, "Vendor\\Foo".toList)]⟩
    let map : Text := "Map<int | x, (y)>".toList
    let foo : Text := "Foo\\Bar".toList
    let e : Expr := .union [.array (.group (.union [.nullable (.array (.name map)), .name foo])),
      .keyword .int, .receiver]
    let t : Text := "( ?Map<int | x, (y)> [] | Foo\\Bar ) [] | INTEGER|$this ".toList
    Writing .union e t ∧ resolve s t = .ok (.compound [.array (.compound [.nullable (.array
      (.object "\\App\\Map<int | x, (y)>".toList)), .object "\\Vendor\\Foo\\Bar".toList]),
      .keyword .int, .this]) := by
  intro s map foo e t
  have hgroup : Balanced "int | x, (y)".toList := by
    refine ⟨by decide, fun u hu => ?_⟩
    have table : ∀ n ≤ 12, 0 ≤ Text.depth ("int | x, (y)".toList.take n) := by decide
    rw [List.prefix_iff_eq_take.1 hu]
    exact table u.length hu.length_le
  have hmap : Writing .operand (.name map) map :=
    .name (@IsAtom.grouped "Map".toList _ _ _ (by decide) (by decide) hgroup .angles)
      (by decide) (Keyword.ofText?_eq_none_iff.1 (by decide +kernel))
  have hfoo : Writing .operand (.name foo) foo :=
    .name (.word (by decide) (by decide)) (by decide)
      (Keyword.ofText?_eq_none_iff.1 (by decide +kernel))
  have hint : Writing .operand (.keyword .int) "INTEGER".toList :=
    .keyword (.word (by decide) (by decide)) (by decide +kernel)
  have hblank : Text.Blank [' '] := by decide
  have hmaps : Writing .nullable (.nullable (.array (.name map)))
      " ?Map<int | x, (y)> [] ".toList :=
    .blanks hblank hblank (.nullable (.operand (.array (.blanks blank_nil hblank hmap))))
  have hfoos : Writing .nullable (.name foo) " Foo\\Bar ".toList :=
    .operand (.blanks hblank hblank hfoo)
  have hinner := @Writing.union [(_, _), (_, _)] (by decide)
    (List.forall_mem_cons.2 ⟨hmaps, List.forall_mem_cons.2 ⟨hfoos, List.forall_mem_nil _⟩⟩)
  have harray := Writing.array (.blanks blank_nil hblank (.group hinner))
  have ht : Writing .union e t := by
    refine @Writing.union [(_, _), (_, _), (_, _)] (by decide) (List.forall_mem_cons.2
      ⟨.operand (.blanks blank_nil hblank harray), List.forall_mem_cons.2
        ⟨.operand (.blanks hblank blank_nil hint), List.forall_mem_cons.2
          ⟨.operand (.blanks blank_nil hblank .receiver), List.forall_mem_nil _⟩⟩⟩)
  have hmeaning : e.meaning s = .compound [.array (.compound [.nullable (.array
      (.object "\\App\\Map<int | x, (y)>".toList)), .object "\\Vendor\\Foo\\Bar".toList]),
      .keyword .int, .this] := by decide +kernel
  exact ⟨ht, hmeaning ▸ resolve_writing ht s⟩

end Ty

end DocTag
