import DocTag.Proofs.Scope
import DocTag.Proofs.Ty.Classes
import Mathlib.Data.List.Sort

namespace DocTag

namespace Text

theorem lessEq_cons (c d : Char) (t u : Text) :
    lessEq (c :: t) (d :: u) = true ↔ c.toNat < d.toNat ∨ c = d ∧ t.lessEq u = true := by
  by_cases h : c = d
  · simp [lessEq, h]
  · have hne : c.toNat ≠ d.toNat := fun e => h (Char.toNat_inj.1 e)
    simp only [lessEq, h, if_false, decide_eq_true_eq, false_and, or_false]
    omega

theorem lessEq_total (t u : Text) : t.lessEq u = true ∨ u.lessEq t = true := by
  induction t generalizing u with
  | nil => exact .inl rfl
  | cons c t ih =>
    cases u with
    | nil => exact .inr rfl
    | cons d u =>
      rw [lessEq_cons, lessEq_cons]
      rcases Nat.lt_trichotomy c.toNat d.toNat with h | h | h
      · exact .inl (.inl h)
      · obtain rfl := Char.toNat_inj.1 h
        exact (ih u).imp (fun h => .inr ⟨rfl, h⟩) fun h => .inr ⟨rfl, h⟩
      · exact .inr (.inl h)

theorem lessEq_antisymm {t u : Text} (htu : t.lessEq u = true) (hut : u.lessEq t = true) :
    t = u := by
  induction t generalizing u with
  | nil =>
    cases u with
    | nil => rfl
    | cons => cases hut
  | cons c t ih =>
    cases u with
    | nil => cases htu
    | cons d u =>
      rw [lessEq_cons] at htu hut
      rcases htu with hlt | ⟨rfl, htu⟩
      · rcases hut with hlt' | ⟨rfl, -⟩
        · exact absurd hlt' hlt.asymm
        · exact absurd hlt (Nat.lt_irrefl _)
      · rcases hut with hlt | ⟨-, hut⟩
        · exact absurd hlt (Nat.lt_irrefl _)
        · rw [ih htu hut]

theorem lessEq_trans {t u v : Text} (htu : t.lessEq u = true) (huv : u.lessEq v = true) :
    t.lessEq v = true := by
  induction t generalizing u v with
  | nil => rfl
  | cons c t ih =>
    cases u with
    | nil => cases htu
    | cons d u =>
      cases v with
      | nil => cases huv
      | cons e v =>
        rw [lessEq_cons] at htu huv ⊢
        rcases htu with hlt | ⟨rfl, htu⟩
        · rcases huv with hlt' | ⟨rfl, -⟩
          · exact .inl (hlt.trans hlt')
          · exact .inl hlt
        · exact huv.imp_right fun ⟨h, huv⟩ => ⟨h, ih htu huv⟩

end Text

namespace Scope

def aliasLessEq (a b : Text × Text) : Bool := if a.1 = b.1 then a.2.lessEq b.2 else a.1.lessEq b.1

theorem aliasLessEq_total (a b : Text × Text) : (aliasLessEq a b || aliasLessEq b a) = true := by
  rw [Bool.or_eq_true]
  by_cases h : a.1 = b.1
  · simpa only [aliasLessEq, h, if_true] using Text.lessEq_total a.2 b.2
  · simpa only [aliasLessEq, h, Ne.symm h, if_false] using Text.lessEq_total a.1 b.1

theorem aliasLessEq_antisymm {a b : Text × Text} (hab : aliasLessEq a b = true)
    (hba : aliasLessEq b a = true) : a = b := by
  by_cases h : a.1 = b.1
  · simp only [aliasLessEq, h, if_true] at hab hba
    exact Prod.ext h (Text.lessEq_antisymm hab hba)
  · simp only [aliasLessEq, h, Ne.symm h, if_false] at hab hba
    exact absurd (Text.lessEq_antisymm hab hba) h

theorem aliasLessEq_trans (a b c : Text × Text) (hab : aliasLessEq a b = true)
    (hbc : aliasLessEq b c = true) : aliasLessEq a c = true := by
  unfold aliasLessEq at hab hbc ⊢
  by_cases h₁ : a.1 = b.1
  · by_cases h₂ : b.1 = c.1
    · simp only [h₁, h₂, if_true] at hab hbc ⊢
      exact Text.lessEq_trans hab hbc
    · simpa only [h₁, h₂, if_false] using hbc
  · by_cases h₂ : b.1 = c.1
    · simpa only [← h₂, h₁, if_false] using hab
    · simp only [h₁, h₂, if_false] at hab hbc
      have h₃ : a.1 ≠ c.1 := fun e => h₁ (Text.lessEq_antisymm hab (e ▸ hbc))
      simp only [h₃, if_false]
      exact Text.lessEq_trans hab hbc

theorem sortedAliases_of_perm {s u : Scope} (h : s.aliases.Perm u.aliases) :
    s.sortedAliases = u.sortedAliases := by
  have hperm : (s.aliases.mergeSort aliasLessEq).Perm (u.aliases.mergeSort aliasLessEq) :=
    ((List.mergeSort_perm _ _).trans h).trans (List.mergeSort_perm _ _).symm
  refine hperm.eq_of_pairwise (fun a b _ _ => aliasLessEq_antisymm) ?_ ?_
  all_goals exact List.pairwise_mergeSort aliasLessEq_trans aliasLessEq_total _

theorem perm_of_same {s u : Scope} (hs : (s.aliases.map Prod.fst).Nodup) (h : s.same u = true) :
    s.aliases.Perm u.aliases := by
  simp only [same, Bool.and_eq_true, beq_iff_eq, List.all_eq_true] at h
  obtain ⟨⟨-, hlength⟩, hlookup⟩ := h
  refine (List.subperm_of_subset hs.of_map fun pair hpair => ?_).perm_of_length_le hlength.ge
  obtain ⟨before, after, e, -⟩ := List.lookup_eq_some_iff.1 (hlookup pair hpair)
  rw [e]
  simp

theorem ns_of_same {s u : Scope} (h : s.same u = true) : s.ns = u.ns := by
  simp only [same, Bool.and_eq_true, beq_iff_eq] at h
  exact h.1.1

def bare? (s : Scope) (head : Text) : Option Text := (s.target? head).map (Text.stripOf '\\')

theorem bare?_eq_none_iff {s : Scope} {head : Text} :
    s.bare? head = none ↔ ∀ pair ∈ s.aliases, pair.1.lower ≠ head.lower := by
  simp [bare?, target?]

theorem exists_of_bare? {s : Scope} {head target : Text} (h : s.bare? head = some target) :
    ∃ pair ∈ s.aliases, pair.1.lower = head.lower ∧ pair.2.stripOf '\\' = target := by
  obtain ⟨full, hfull, rfl⟩ := Option.map_eq_some_iff.1 h
  obtain ⟨pair, hpair, hlower, rfl⟩ := exists_of_target? hfull
  exact ⟨pair, hpair, hlower, rfl⟩

theorem qualify_eq {s : Scope} {name : Text} (h : name.head? ≠ some '\\') : s.qualify name =
    match s.bare? (name.takeWhile (· != '\\')) with
    | some target => '\\' :: target ++ name.dropWhile (· != '\\')
    | none =>
      match s.ns.stripOf '\\' with
      | [] => '\\' :: name
      | ns => '\\' :: ns ++ '\\' :: name := by
  unfold qualify bare?
  split
  · exact absurd rfl h
  · cases s.target? (name.takeWhile (· != '\\')) <;> rfl

theorem bare?_eq_none_of_perm {s u : Scope} (hperm : s.aliases.Perm u.aliases) (head : Text) :
    s.bare? head = none ↔ u.bare? head = none := by
  simp only [bare?_eq_none_iff, hperm.mem_iff]

theorem bare?_eq_of_case {s u : Scope} (hperm : s.aliases.Perm u.aliases)
    (hcase : ∀ a ∈ s.aliases, ∀ b ∈ s.aliases, a.1.lower = b.1.lower →
      a.2.stripOf '\\' = b.2.stripOf '\\') (head : Text) : s.bare? head = u.bare? head := by
  cases hs : s.bare? head with
  | none => rw [(bare?_eq_none_of_perm hperm head).1 hs]
  | some target =>
    cases hu : u.bare? head with
    | none =>
      rw [(bare?_eq_none_of_perm hperm head).2 hu] at hs
      cases hs
    | some target' =>
      obtain ⟨a, ha, hlower, rfl⟩ := exists_of_bare? hs
      obtain ⟨b, hb, hlower', rfl⟩ := exists_of_bare? hu
      rw [hcase a ha b (hperm.mem_iff.2 hb) (hlower.trans hlower'.symm)]

theorem qualify_eq_iff {s u : Scope} (hns : s.ns = u.ns) (hperm : s.aliases.Perm u.aliases)
    {name : Text} : s.qualify name = u.qualify name ↔ (name.head? ≠ some '\\' →
      s.bare? (name.takeWhile (· != '\\')) = u.bare? (name.takeWhile (· != '\\'))) := by
  have hnone := bare?_eq_none_of_perm hperm (name.takeWhile (· != '\\'))
  by_cases h : name.head? = some '\\'
  · obtain ⟨rest, rfl⟩ := List.head?_eq_some_iff.1 h
    exact iff_of_true rfl fun hne => absurd rfl hne
  rw [qualify_eq h, qualify_eq h, hns, imp_iff_right h]
  cases hs : s.bare? (name.takeWhile (· != '\\')) with
  | none => simp only [hnone.1 hs]
  | some target =>
    cases hu : u.bare? (name.takeWhile (· != '\\')) with
    | none =>
      rw [hnone.2 hu] at hs
      cases hs
    | some target' => simp

end Scope

namespace Ty

mutual

theorem qualify_congr {s u : Scope} : (t : Ty) →
    (∀ name ∈ t.classes, s.qualify name = u.qualify name) → t.qualify s = t.qualify u
  | .keyword _, _ | .this, _ => rfl
  | .object name, h => congrArg Ty.object (h name (List.mem_singleton.2 rfl))
  | .array of, h => congrArg Ty.array (qualify_congr of h)
  | .nullable of, h => congrArg Ty.nullable (qualify_congr of h)
  | .compound members, h => congrArg Ty.compound (qualifyAll_congr members h)

theorem qualifyAll_congr {s u : Scope} : (ts : List Ty) →
    (∀ name ∈ classesAll ts, s.qualify name = u.qualify name) → qualifyAll s ts = qualifyAll u ts
  | [], _ => rfl
  | t :: ts, h => by
    rw [classesAll, List.forall_mem_append] at h
    rw [qualifyAll, qualifyAll, qualify_congr t h.1, qualifyAll_congr ts h.2]

end

theorem qualify_eq_iff {s u : Scope} {t : Ty} :
    t.qualify s = t.qualify u ↔ ∀ name ∈ t.classes, s.qualify name = u.qualify name := by
  refine ⟨fun h => ?_, qualify_congr t⟩
  have hclasses := congrArg classes h
  rw [classes_qualify, classes_qualify] at hclasses
  exact List.map_inj_left.1 hclasses

/-- Equal scopes have equal hash keys. A type is resolved alike in them exactly if the first alias
    for each class in it has the same bare target, which is always so where aliases whose names
    differ in nothing but letter case have the same one. -/
theorem resolve_same_iff {s u : Scope} (hs : (s.aliases.map Prod.fst).Nodup)
    (h : s.same u = true) :
    s.hashKey = u.hashKey ∧
    (∀ raw, resolve s raw = resolve u raw ↔ ∀ t, read? raw = some t →
      ∀ name ∈ t.classes, name.head? ≠ some '\\' →
        s.bare? (name.takeWhile (· != '\\')) = u.bare? (name.takeWhile (· != '\\'))) ∧
    ((∀ a ∈ s.aliases, ∀ b ∈ s.aliases, a.1.lower = b.1.lower →
        a.2.stripOf '\\' = b.2.stripOf '\\') → ∀ raw, resolve s raw = resolve u raw) := by
  have hperm := Scope.perm_of_same hs h
  have hns := Scope.ns_of_same h
  have hresolve : ∀ raw, resolve s raw = resolve u raw ↔ ∀ t, read? raw = some t →
      ∀ name ∈ t.classes, name.head? ≠ some '\\' →
        s.bare? (name.takeWhile (· != '\\')) = u.bare? (name.takeWhile (· != '\\')) := by
    intro raw
    unfold resolve
    cases read? raw with
    | none => simp
    | some t => simp only [Except.ok.injEq, qualify_eq_iff, Scope.qualify_eq_iff hns hperm,
        Option.some.injEq, forall_eq']
  refine ⟨?_, hresolve, fun hcase raw => (hresolve raw).2 fun t _ name _ _ => ?_⟩
  · rw [Scope.hashKey, Scope.hashKey, hns, Scope.sortedAliases_of_perm hperm]
  · exact Scope.bare?_eq_of_case hperm hcase _

theorem resolve_same_iff_case :
    let capital := ("Http".toList, "Vendor\\Http".toList)
    let small := ("http".toList, "Other".toList)
    let s : Scope := ⟨[], [capital, small]⟩
    let u : Scope := ⟨[], [small, capital]⟩
    (s.aliases.map Prod.fst).Nodup ∧ s.same u = true ∧ s.hashKey = u.hashKey ∧
      resolve s "?HTTP\\Client".toList ≠ resolve u "?HTTP\\Client".toList := by
  intro capital small s u
  have hnodup : (s.aliases.map Prod.fst).Nodup := by decide
  have hsame : s.same u = true := by decide
  obtain ⟨hhash, hresolve, -⟩ := resolve_same_iff hnodup hsame
  refine ⟨hnodup, hsame, hhash, fun h => ?_⟩
  have hread : read? "?HTTP\\Client".toList = some (.nullable (.object "HTTP\\Client".toList)) := by
    decide +kernel
  have hbare := (hresolve _).1 h _ hread "HTTP\\Client".toList (List.mem_singleton.2 rfl)
    (by decide)
  exact absurd hbare (by decide +kernel)

end Ty

end DocTag
