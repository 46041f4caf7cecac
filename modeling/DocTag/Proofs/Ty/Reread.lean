import DocTag.Proofs.Ty.WellFormed

/-!
The type that the written form of a type is read as, found on the type itself, and the types that
are read as themselves. Two types are written alike exactly when they are read as the same type.
-/

namespace DocTag.Ty

open Text

def isNullable : Ty → Bool
  | .nullable _ => true
  | _ => false

def bracketed : Ty → Ty
  | .nullable of => .nullable of.bracketed
  | t => .array t

def bracketLast : List Ty → List Ty
  | [] => []
  | [t] => [t.bracketed]
  | t :: u :: ts => t :: bracketLast (u :: ts)

mutual

def members : Ty → List Ty
  | .array of =>
    if of.isCompound then [.array (.compound of.members)] else bracketLast of.members
  | .nullable of => of.members.modifyHead .nullable
  | .compound ts => membersAll ts
  | t => [t]

def membersAll : List Ty → List Ty
  | [] => []
  | t :: ts => t.members ++ membersAll ts

end

@[simp] theorem membersAll_eq_flatMap (ts : List Ty) : membersAll ts = ts.flatMap members := by
  induction ts with
  | nil => rfl
  | cons t ts ih => rw [membersAll, ih, List.flatMap_cons]

def ofMembers : List Ty → Ty
  | [t] => t
  | ts => .compound ts

def reread (t : Ty) : Ty := ofMembers t.members

/-- The types whose written form needs no parentheses but those it has: no array is taken of a
    nullable type, no union is nullable, and no union is a member of another. -/
inductive Direct : Ty → Prop
  | keyword (k : Keyword) : Direct (.keyword k)
  | this : Direct .this
  | object (name : Text) : Direct (.object name)
  | array {t : Ty} : Direct t → t.isNullable = false → Direct (.array t)
  | nullable {t : Ty} : Direct t → t.isCompound = false → Direct (.nullable t)
  | compound {ts : List Ty} : (∀ t ∈ ts, Direct t) → (∀ t ∈ ts, t.isCompound = false) →
      Direct (.compound ts)

theorem bracketed_of_not_nullable {t : Ty} (h : t.isNullable = false) : t.bracketed = .array t := by
  cases t with
  | nullable => cases h
  | _ => rfl

theorem bracketed_isCompound (t : Ty) : t.bracketed.isCompound = false := by
  cases t <;> rfl

def alternatives : Ty → List Ty
  | .compound ts => ts
  | t => [t]

theorem alternatives_of_not_compound {t : Ty} (h : t.isCompound = false) :
    t.alternatives = [t] := by
  cases t with
  | compound => cases h
  | _ => rfl

theorem WellFormed.ofMembers_alternatives {t : Ty} (h : t.WellFormed) :
    ofMembers t.alternatives = t := by
  cases h with
  | @compound ts hlength =>
    match ts, hlength with
    | _ :: _ :: _, _ => rfl
  | _ => rfl

namespace Direct

theorem bracketed {t : Ty} (h : Direct t) : Direct t.bracketed := by
  induction h with
  | nullable _ _ ih => exact .nullable ih (bracketed_isCompound _)
  | keyword k => exact .array (.keyword k) rfl
  | this => exact .array .this rfl
  | object name => exact .array (.object name) rfl
  | array h hn => exact .array (.array h hn) rfl
  | compound h hc => exact .array (.compound h hc) rfl

theorem members_eq {t : Ty} (h : Direct t) : t.members = t.alternatives := by
  induction h with
  | keyword | this | object => rfl
  | @array t _ hn ih =>
    rw [members]
    split
    · rw [ih]
      cases t with
      | compound => rfl
      | _ => contradiction
    · rename_i hc
      rw [ih, alternatives_of_not_compound (by simpa using hc), bracketLast,
        bracketed_of_not_nullable hn]
      rfl
  | nullable _ hc ih =>
    rw [members, ih, alternatives_of_not_compound hc]
    rfl
  | @compound ts _ hc ih =>
    have hmember : ∀ t ∈ ts, t.members = [t] := fun t ht =>
      (ih t ht).trans (alternatives_of_not_compound (hc t ht))
    rw [members, membersAll_eq_flatMap, List.flatMap_congr hmember, List.flatMap_singleton']
    rfl

end Direct

theorem mem_bracketLast {u : Ty} {ts : List Ty} (h : u ∈ bracketLast ts) :
    u ∈ ts ∨ ∃ t ∈ ts, u = t.bracketed := by
  induction ts with
  | nil => cases h
  | cons t ts ih =>
    cases ts with
    | nil =>
      rw [bracketLast, List.mem_singleton] at h
      exact .inr ⟨t, by simp, h⟩
    | cons v ts =>
      rw [bracketLast] at h
      rcases List.mem_cons.1 h with rfl | h
      · exact .inl (by simp)
      · rcases ih h with h | ⟨w, hw, rfl⟩
        · exact .inl (List.mem_cons_of_mem _ h)
        · exact .inr ⟨w, List.mem_cons_of_mem _ hw, rfl⟩

theorem WellFormed.direct_members {t : Ty} (h : t.WellFormed) :
    ∀ u ∈ t.members, Direct u ∧ u.isCompound = false := by
  induction h with
  | keyword k => simpa [members] using ⟨Direct.keyword k, rfl⟩
  | this => simpa [members] using ⟨Direct.this, rfl⟩
  | @object name => simpa [members] using ⟨Direct.object name, rfl⟩
  | array _ ih =>
    intro u hu
    rw [members] at hu
    split at hu
    · rw [List.mem_singleton.1 hu]
      exact ⟨.array (.compound (fun v hv => (ih v hv).1) fun v hv => (ih v hv).2) rfl, rfl⟩
    · rcases mem_bracketLast hu with hu | ⟨v, hv, rfl⟩
      · exact ih u hu
      · exact ⟨(ih v hv).1.bracketed, bracketed_isCompound v⟩
  | @nullable t _ ih =>
    intro u hu
    rw [members] at hu
    cases hms : t.members with
    | nil => simp [hms] at hu
    | cons v vs =>
      rw [hms] at ih hu
      rcases List.mem_cons.1 hu with rfl | hu
      · exact ⟨.nullable (ih v (by simp)).1 (ih v (by simp)).2, rfl⟩
      · exact ih u (List.mem_cons_of_mem _ hu)
  | compound _ _ ih =>
    intro u hu
    rw [members, membersAll_eq_flatMap] at hu
    obtain ⟨t, ht, hu⟩ := List.mem_flatMap.1 hu
    exact ih t ht u hu

theorem WellFormed.direct_reread {t : Ty} (h : t.WellFormed) : Direct t.reread := by
  have hmembers := h.direct_members
  rw [reread]
  generalize t.members = us at hmembers
  unfold ofMembers
  split
  · exact (hmembers _ (by simp)).1
  · exact .compound (fun u hu => (hmembers u hu).1) fun u hu => (hmembers u hu).2

theorem WellFormed.reread_eq_self_iff {t : Ty} (h : t.WellFormed) : t.reread = t ↔ Direct t := by
  constructor
  · intro e
    have hdirect := h.direct_reread
    rwa [e] at hdirect
  · intro hdirect
    rw [reread, hdirect.members_eq, h.ofMembers_alternatives]

theorem Restores.bracketed_of_head {t : Text} {u : Ty} (h : Restores t u) (ht : Piece t)
    (hhead : t.head? ≠ some '?') : Restores (t ++ ['[', ']']) u.bracketed := by
  obtain ⟨v, hv, hcompound⟩ := ht.exists_restores
  obtain rfl := h.unique hv
  have hnull : u.isNullable = false := by
    cases u with
    | nullable => exact absurd (by rw [← h.render]; rfl) hhead
    | _ => rfl
  rw [bracketed_of_not_nullable hnull]
  exact h.array ht hhead hcompound

theorem Restores.bracketed {t : Text} {u : Ty} (h : Restores t u) (ht : Piece t) :
    Restores (t ++ ['[', ']']) u.bracketed := by
  induction ht generalizing u with
  | nullable ht ih =>
    obtain ⟨v, hv, -⟩ := ht.exists_restores
    rw [h.unique (hv.nullable ht)]
    exact (ih hv).nullable ht.array_of
  | atom htight hform hrender hqualify =>
    refine h.bracketed_of_head (.atom htight hform hrender hqualify) ?_
    cases hform with
    | name _ _ hhead => exact hhead
  | array ht hhead =>
    refine h.bracketed_of_head (.array ht hhead) ?_
    rwa [List.head?_append_of_ne_nil _ ht.ne_nil]
  | union hs hpieces hbar => exact h.bracketed_of_head (.union hs hpieces hbar) (by simp)

structure Spells (ps : List Text) (us : List Ty) : Prop extends Pieces ps where
  restores : List.Forall₂ Restores ps us

theorem Pieces.unique {ps qs : List Text} (hp : Pieces ps) (hq : Pieces qs)
    (h : ['|'].intercalate ps = ['|'].intercalate qs) : ps = qs := by
  rw [← splitTop_intercalate bracketStep_bar hp.split, h,
    splitTop_intercalate bracketStep_bar hq.split]

namespace Spells

variable {ps : List Text} {us : List Ty}

theorem single {p : Text} {u : Ty} (hp : Piece p) (hu : Restores p u) : Spells [p] [u] :=
  ⟨.single hp, .cons hu .nil⟩

theorem restores_intercalate (h : Spells ps us) :
    Restores (['|'].intercalate ps) (ofMembers us) := by
  obtain ⟨hps, hus⟩ := h
  cases hus with
  | nil => exact absurd rfl hps.split.ne_nil
  | cons hu hrest =>
    cases hrest with
    | nil => rwa [List.intercalate_singleton]
    | cons hv hrest => exact .union hps.split hps.piece (.cons hu (.cons hv hrest))

theorem nullable (h : Spells ps us) : ∃ qs, Spells qs (us.modifyHead .nullable) ∧
    ['|'].intercalate qs = '?' :: ['|'].intercalate ps := by
  obtain ⟨hps, hus⟩ := h
  cases hus with
  | nil => exact absurd rfl hps.split.ne_nil
  | @cons p u ps us hu hrest =>
    have hp := hps.piece p (by simp)
    exact ⟨('?' :: p) :: ps, ⟨hps.nullable_cons, .cons (hu.nullable hp) hrest⟩,
      List.intercalate_cons_cons_left⟩

theorem array (h : Spells ps us) : ∃ qs, Spells qs (bracketLast us) ∧
    ['|'].intercalate qs = ['|'].intercalate ps ++ ['[', ']'] := by
  obtain ⟨⟨hs, hp⟩, hus⟩ := h
  induction hs generalizing us with
  | @single p hbar =>
    obtain ⟨u, vs, hu, hvs, rfl⟩ := List.forall₂_cons_left_iff.1 hus
    obtain rfl := List.forall₂_nil_left_iff.1 hvs
    have hpiece := hp p (by simp)
    exact ⟨[p ++ ['[', ']']], .single hpiece.array_of (hu.bracketed hpiece), by simp⟩
  | @cons p ps hbar hd hs ih =>
    obtain ⟨u, vs, hu, hvs, rfl⟩ := List.forall₂_cons_left_iff.1 hus
    obtain ⟨qs, hqs, hjoin⟩ := ih hvs fun q hq => hp q (by simp [hq])
    have hlast : bracketLast (u :: vs) = u :: bracketLast vs := by
      cases hvs with
      | nil => exact absurd rfl hs.ne_nil
      | cons => rfl
    refine ⟨p :: qs, ⟨.cons (hp p (by simp)) hd hqs.toPieces, ?_⟩, ?_⟩
    · rw [hlast]
      exact .cons hu hqs.restores
    · rw [List.intercalate_cons_of_ne_nil hqs.split.ne_nil, hjoin,
        List.intercalate_cons_of_ne_nil hs.ne_nil]
      simp

theorem append {qs : List Text} {vs : List Ty} (h : Spells ps us)
    (hd : depth (['|'].intercalate ps) = 0) (hq : Spells qs vs) : Spells (ps ++ qs) (us ++ vs) :=
  ⟨h.toPieces.append hd hq.toPieces, List.rel_append h.restores hq.restores⟩

theorem wrapped (h : Spells ps us) (hlength : 2 ≤ ps.length)
    (hbar : ¬ BarAt (-1) (['|'].intercalate ps)) :
    Spells ['(' :: ['|'].intercalate ps ++ [')', '[', ']']] [.array (.compound us)] := by
  obtain ⟨hps, hus⟩ := h
  match ps, hlength with
  | p :: q :: ps, _ =>
    have hpiece := Piece.union hps.split hps.piece hbar
    exact .single hpiece ((Restores.union hps.split hps.piece hus).wrapped hpiece)

end Spells

def Spelled (t : Ty) : Prop := ∃ ps, Spells ps t.members ∧ ['|'].intercalate ps = t.render

namespace Spelled

theorem single {t : Ty} (ht : t.members = [t]) (hpiece : Piece t.render)
    (h : Restores t.render t) : Spelled t := by
  refine ⟨[t.render], ?_, List.intercalate_singleton⟩
  rw [ht]
  exact .single hpiece h

theorem nullable {t : Ty} (h : Spelled t) : Spelled (.nullable t) := by
  obtain ⟨ps, hps, hjoin⟩ := h
  obtain ⟨qs, hqs, hjoin'⟩ := hps.nullable
  exact ⟨qs, hqs, by rw [hjoin', hjoin, render]⟩

theorem array {raw of : Text} {t : Ty} (h : Spelled t) (hform : Form.Has raw (.array of))
    (hkeeps : Keeps of t) : Spelled (.array t) := by
  obtain ⟨ps, hps, hjoin⟩ := h
  unfold Spelled
  rw [members, render]
  split
  · rename_i hc
    obtain ⟨ps', hps', hjoin', hlength⟩ := hkeeps.pieces
    obtain rfl := hps.toPieces.unique hps' (hjoin.trans hjoin'.symm)
    have hbar : ¬ BarAt (-1) (['|'].intercalate ps) := by
      rw [hjoin]
      exact hkeeps.clear_of_array hform hc 0 (by omega) (clear_zero raw) (-1) (by omega) (by omega)
    exact ⟨_, hps.wrapped (hlength hc) hbar, by rw [List.intercalate_singleton, hjoin]⟩
  · obtain ⟨qs, hqs, hjoin'⟩ := hps.array
    exact ⟨qs, hqs, by rw [hjoin', hjoin]⟩

theorem intercalate {raws : List Text} {ts : List Ty} (hs : TopSplit '|' raws)
    (h : List.Forall₂ (fun raw t => Keeps raw t ∧ Spelled t) raws ts) :
    ∃ ps, Spells ps (ts.flatMap members) ∧
      ['|'].intercalate ps = ['|'].intercalate (ts.map render) := by
  induction hs generalizing ts with
  | single =>
    obtain ⟨t, us, ⟨-, ps, hps, hjoin⟩, hus, rfl⟩ := List.forall₂_cons_left_iff.1 h
    obtain rfl := List.forall₂_nil_left_iff.1 hus
    exact ⟨ps, by simpa using hps, by simpa using hjoin⟩
  | cons _ hd hs ih =>
    obtain ⟨t, us, ⟨hkeeps, ps, hps, hjoin⟩, hus, rfl⟩ := List.forall₂_cons_left_iff.1 h
    obtain ⟨qs, hqs, hjoin'⟩ := ih hus
    have hne : us.map render ≠ [] := by
      cases hus with
      | nil => exact absurd rfl hs.ne_nil
      | cons => simp
    refine ⟨ps ++ qs, ?_, ?_⟩
    · rw [List.flatMap_cons]
      exact hps.append (by rw [hjoin, hkeeps.level, hd]) hqs
    · rw [intercalate_append hps.split.ne_nil hqs.split.ne_nil, hjoin, hjoin', List.map_cons,
        List.intercalate_cons_of_ne_nil hne]

theorem name {s : Scope} (hs : s.Within IsPlain) {u : Text} (htight : u.Tight)
    (hform : Form.Has u (.name u)) : Spelled ((atom u).qualify s) := by
  have hnames := Names.of_atom hs htight hform
  have hmembers : ((atom u).qualify s).members = [(atom u).qualify s] := by
    unfold atom
    split
    · rfl
    · split <;> rfl
  exact .single hmembers hnames.piece hnames.restores

end Spelled

theorem spelled_of_read? {s : Scope} (hs : s.Within IsPlain) {raw : Text} {t : Ty}
    (h : read? raw = some t) : Spelled (t.qualify s) := by
  -- That the parts were read, too, is what the writing of unions and arrays needs of them.
  suffices hboth : read? raw = some t ∧ Spelled (t.qualify s) from hboth.2
  refine read?_induction (motive := fun raw t => read? raw = some t ∧ Spelled (t.qualify s))
    ?_ ?_ ?_ ?_ ?_ h
  · intro raw members ts hform ih
    have hread : List.Forall₂ (fun p t => read? p = some t) members ts := ih.imp fun _ _ h => h.1
    have hparts : List.Forall₂ (fun raw t => Keeps raw t ∧ Spelled t) members
        (ts.map (qualify s)) :=
      List.forall₂_map_right_iff.2 (ih.imp fun _ _ h => ⟨keeps_of_read? hs h.1, h.2⟩)
    have hhas := Form.has_ofText raw
    rw [hform] at hhas
    generalize raw.trim = trimmed at hhas
    constructor
    · rw [read?_eq, hform]
      simp only [mapM_eq_some_iff.2 hread, Option.map_some]
    · cases hhas with
      | union hsplit =>
        obtain ⟨ps, hps, hjoin⟩ := Spelled.intercalate hsplit hparts
        refine ⟨ps, ?_, ?_⟩
        · rwa [qualify, qualifyAll_eq_map, members, membersAll_eq_flatMap]
        · rwa [qualify, qualifyAll_eq_map, render, renderAll_eq_map]
  · intro raw of t hform ih
    exact ⟨by simp [read?_eq raw, hform, ih.1], ih.2.nullable⟩
  · intro raw of t hform ih
    have hhas := Form.has_ofText raw
    rw [hform] at hhas
    exact ⟨by simp [read?_eq raw, hform, ih.1], ih.2.array hhas (keeps_of_read? hs ih.1)⟩
  · intro raw inner t hform ih
    exact ⟨by simp [read?_eq raw, hform, ih.1], ih.2⟩
  · intro raw u hform
    refine ⟨by rw [read?_eq, hform], ?_⟩
    have hhas := Form.has_ofText raw
    have htight := tight_trim raw
    rw [hform] at hhas
    generalize raw.trim = trimmed at hhas htight
    cases hhas with
    | name h0 h1 h2 h3 h4 => exact .name hs htight (.name h0 h1 h2 h3 h4)

theorem restores_of_resolve {s : Scope} (hs : s.Within IsPlain) {raw : Text} {t : Ty}
    (h : resolve s raw = .ok t) : Restores t.render t.reread := by
  obtain ⟨u, hread, rfl⟩ := resolve_eq_ok.1 h
  obtain ⟨ps, hps, hjoin⟩ := spelled_of_read? hs hread
  rw [← hjoin]
  exact hps.restores_intercalate

/-- Two resolved types are written alike exactly when they are read as the same type. A type is read
    as itself exactly when it is direct, so direct types that are written alike are equal; others
    share their written form with the type that they are read as. -/
theorem render_eq_render_iff {raw₁ raw₂ : Text} {t₁ t₂ : Ty} (h₁ : resolve {} raw₁ = .ok t₁)
    (h₂ : resolve {} raw₂ = .ok t₂) :
    (t₁.render = t₂.render ↔ t₁.reread = t₂.reread) ∧
      resolve {} t₁.render = .ok t₁.reread ∧ (t₁.reread = t₁ ↔ Direct t₁) ∧
      (Direct t₁ → Direct t₂ → t₁.render = t₂.render → t₁ = t₂) := by
  have hread₁ := restores_of_resolve (Scope.within_default _) h₁
  have hread₂ := restores_of_resolve (Scope.within_default _) h₂
  have hself₁ := (wellFormed_of_resolve h₁).reread_eq_self_iff
  have hself₂ := (wellFormed_of_resolve h₂).reread_eq_self_iff
  have halike : t₁.render = t₂.render ↔ t₁.reread = t₂.reread := by
    constructor
    · intro e
      rw [e] at hread₁
      exact hread₁.unique hread₂
    · intro e
      rw [← hread₁.render, e, hread₂.render]
  refine ⟨halike, hread₁.resolve {}, hself₁, ?_⟩
  intro hdirect₁ hdirect₂ e
  calc
    t₁ = t₁.reread := (hself₁.2 hdirect₁).symm
    _ = t₂.reread := halike.1 e
    _ = t₂ := hself₂.2 hdirect₂

/-- An array of a nullable type is written as a nullable array is. -/
theorem render_eq_render_nullable :
    let t₁ : Ty := .array (.nullable (.keyword .int))
    let t₂ : Ty := .nullable (.array (.keyword .int))
    resolve {} "(?int)[]".toList = .ok t₁ ∧ resolve {} "?int[]".toList = .ok t₂ ∧
      t₁.render = t₂.render ∧ t₁ ≠ t₂ ∧ t₁.reread = t₂ ∧ Direct t₂ := by
  intro t₁ t₂
  have h₁ : resolve {} "(?int)[]".toList = .ok t₁ :=
    resolve_eq_ok.2 ⟨t₁, by decide +kernel, rfl⟩
  have h₂ : resolve {} "?int[]".toList = .ok t₂ :=
    resolve_eq_ok.2 ⟨t₂, by decide +kernel, rfl⟩
  have hdirect : Direct t₂ := .nullable (.array (.keyword .int) rfl) rfl
  exact ⟨h₁, h₂, (render_eq_render_iff h₁ h₂).1.2 rfl, by decide, rfl, hdirect⟩

end DocTag.Ty
