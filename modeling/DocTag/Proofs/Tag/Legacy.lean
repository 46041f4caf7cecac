import DocTag.Proofs.Ty.Interchange
import DocTag.Tag.Method
import Mathlib.Data.List.Forall2

namespace DocTag.Method

section Traversal

variable {α β ε : Type} {f : α → Except ε β}

theorem mapM_eq_ok_iff {xs : List α} {ys : List β} :
    xs.mapM f = .ok ys ↔ List.Forall₂ (fun x y => f x = .ok y) xs ys := by
  induction xs generalizing ys with
  | nil => cases ys <;> simp [pure, Except.pure]
  | cons x xs ih =>
    rw [List.mapM_cons, List.forall₂_cons_left_iff]
    simp only [← ih]
    cases f x with
    | error => simp [bind, Except.bind]
    | ok y => cases xs.mapM f <;> simp [bind, Except.bind, pure, Except.pure, eq_comm]

theorem exists_mapM_eq_ok_iff {xs : List α} :
    (∃ ys, xs.mapM f = .ok ys) ↔ ∀ x ∈ xs, ∃ y, f x = .ok y := by
  simp only [mapM_eq_ok_iff]
  induction xs with
  | nil => exact iff_of_true ⟨[], .nil⟩ (by simp)
  | cons x xs ih =>
    simp only [List.forall_mem_cons, ← ih, List.forall₂_cons_left_iff]
    constructor
    · rintro ⟨_, y, ys, hy, hys, -⟩
      exact ⟨⟨y, hy⟩, ys, hys⟩
    · rintro ⟨⟨y, hy⟩, ys, hys⟩
      exact ⟨_, y, ys, hy, hys, rfl⟩

theorem mapM_eq_error {before after : List α} {x : α} {why : ε}
    (hbefore : ∀ b ∈ before, ∃ y, f b = .ok y) (hx : f x = .error why) :
    (before ++ x :: after).mapM f = .error why := by
  obtain ⟨ys, hys⟩ := exists_mapM_eq_ok_iff.2 hbefore
  rw [List.mapM_append, hys, List.mapM_cons, hx]
  rfl

end Traversal

def Field.KeyFits : Field → Prop
  | .name _ | .type _ => True
  | .other key => key ≠ "name".toList ∧ key ≠ "type".toList

instance : DecidablePred Field.KeyFits
  | .name _ | .type _ => isTrue trivial
  | .other key => inferInstanceAs (Decidable (key ≠ "name".toList ∧ key ≠ "type".toList))

theorem Field.exists_name {f : Field} (hf : f.KeyFits) (h : f.key = "name".toList) :
    ∃ name, f = .name name := by
  cases f with
  | name name => exact ⟨name, rfl⟩
  | type => exact absurd h (show "type".toList ≠ "name".toList by decide)
  | other => exact absurd h hf.1

theorem Field.exists_type {f : Field} (hf : f.KeyFits) (h : f.key = "type".toList) :
    ∃ type, f = .type type := by
  cases f with
  | name => exact absurd h (show "name".toList ≠ "type".toList by decide)
  | type type => exact ⟨type, rfl⟩
  | other => exact absurd h hf.2

namespace Argument

def entries : Argument → List Field
  | bare name => [.name name]
  | fields fs => fs

structure IsMapping (a : Argument) : Prop where
  nodup : (a.entries.map Field.key).Nodup
  fits : ∀ f ∈ a.entries, f.KeyFits

instance : DecidablePred IsMapping := fun a =>
  decidable_of_iff ((a.entries.map Field.key).Nodup ∧ ∀ f ∈ a.entries, f.KeyFits)
    ⟨fun h => ⟨h.1, h.2⟩, fun h => ⟨h.nodup, h.fits⟩⟩

def Admitted (a : Argument) : Prop :=
  (∀ key, key ∈ a.entries.map Field.key ↔ key = "name".toList) ∨
    ∀ key, key ∈ a.entries.map Field.key ↔ key = "name".toList ∨ key = "type".toList

/-- A name and perhaps a type, which may be there without being one. -/
structure Gives (a : Argument) (name : Text) (type : Option Ty) : Prop where
  name : .name name ∈ a.entries
  type : .type type ∈ a.entries ∨ type = none ∧ ∀ u, .type u ∉ a.entries

variable {a : Argument}

theorem keys_eq (a : Argument) : a.keys = (a.entries.map Field.key).mergeSort Text.lessEq := by
  cases a with
  | bare => exact (List.mergeSort_singleton _).symm
  | fields => rfl

theorem keys_perm (a : Argument) : a.keys.Perm (a.entries.map Field.key) := by
  rw [keys_eq]
  exact List.mergeSort_perm _ _

theorem pairwise_keys (a : Argument) : a.keys.Pairwise fun k l => k.lessEq l = true := by
  have htrans : ∀ k l m : Text, k.lessEq l = true → l.lessEq m = true → k.lessEq m = true :=
    fun _ _ _ => Text.lessEq_trans
  have htotal : ∀ k l : Text, (k.lessEq l || l.lessEq k) = true := fun k l => by
    rw [Bool.or_eq_true]
    exact Text.lessEq_total k l
  rw [keys_eq]
  exact List.pairwise_mergeSort htrans htotal _

theorem keys_of_perm {ks : List Text} (h : (a.entries.map Field.key).Perm ks)
    (hks : ks.Pairwise fun k l => k.lessEq l = true) : a.keys = ks :=
  (a.keys_perm.trans h).eq_of_pairwise (fun _ _ _ _ => Text.lessEq_antisymm) a.pairwise_keys hks

theorem IsMapping.admitted_iff (h : a.IsMapping) :
    a.Admitted ↔ a.keys = ["name".toList] ∨ a.keys = ["name".toList, "type".toList] := by
  constructor
  · rintro (hkeys | hkeys)
    · refine .inl (keys_of_perm ?_ (by decide))
      exact (List.perm_ext_iff_of_nodup h.nodup (by decide)).2 (by simpa using hkeys)
    · refine .inr (keys_of_perm ?_ (by decide))
      exact (List.perm_ext_iff_of_nodup h.nodup (by decide)).2 (by simpa using hkeys)
  · simp only [Admitted, ← a.keys_perm.mem_iff]
    rintro (hkeys | hkeys)
    · exact .inl fun key => by rw [hkeys, List.mem_singleton]
    · exact .inr fun key => by rw [hkeys, List.mem_pair]

theorem IsMapping.entries_cases (h : a.IsMapping) (hadmitted : a.Admitted) :
    (∃ name, a.entries = [.name name]) ∨ (∃ name type, a.entries = [.name name, .type type]) ∨
      ∃ name type, a.entries = [.type type, .name name] := by
  -- The keys may stand in either order.
  have hfits := h.fits
  have hperm := a.keys_perm.symm
  rcases h.admitted_iff.1 hadmitted with hkeys | hkeys
  · rw [hkeys, List.perm_singleton] at hperm
    obtain ⟨f, hentries, hf⟩ := List.map_eq_singleton_iff.1 hperm
    rw [hentries, List.forall_mem_singleton] at hfits
    obtain ⟨name, rfl⟩ := Field.exists_name hfits hf
    exact .inl ⟨name, hentries⟩
  · rw [hkeys] at hperm
    obtain ⟨f, g, hentries⟩ := List.length_eq_two.1
      ((List.length_map Field.key).symm.trans hperm.length_eq)
    rw [hentries, List.forall_mem_cons, List.forall_mem_singleton] at hfits
    rw [hentries] at hperm
    have hf : f.key ∈ ["name".toList, "type".toList] := hperm.subset (by simp)
    rcases List.mem_pair.1 hf with hf | hf
    · rw [List.map_cons, hf, List.perm_cons] at hperm
      obtain ⟨name, rfl⟩ := Field.exists_name hfits.1 hf
      obtain ⟨type, rfl⟩ := Field.exists_type hfits.2 (by simpa using hperm)
      exact .inr (.inl ⟨name, type, hentries⟩)
    · have hswap := hperm.trans (.swap _ _ _)
      rw [List.map_cons, hf, List.perm_cons] at hswap
      obtain ⟨type, rfl⟩ := Field.exists_type hfits.1 hf
      obtain ⟨name, rfl⟩ := Field.exists_name hfits.2 (by simpa using hswap)
      exact .inr (.inr ⟨name, type, hentries⟩)

theorem IsMapping.toParameter_eq_error (h : a.IsMapping) (hadmitted : ¬ a.Admitted) :
    a.toParameter = .error (.argumentFields a.keys) :=
  if_neg (mt h.admitted_iff.2 hadmitted)

theorem IsMapping.exists_toParameter (h : a.IsMapping) (hadmitted : a.Admitted) :
    ∃ name type, a.Gives name type ∧
      a.toParameter = .ok { name := name, type := type.getD .mixed } := by
  have hkeys := h.admitted_iff.1 hadmitted
  cases a with
  | bare name =>
    exact ⟨name, none, ⟨by simp [entries], .inr ⟨rfl, by simp [entries]⟩⟩, if_pos hkeys⟩
  | fields fs =>
    rcases h.entries_cases hadmitted with ⟨name, rfl⟩ | ⟨name, type, rfl⟩ | ⟨name, type, rfl⟩
    · exact ⟨name, none, ⟨by simp [entries], .inr ⟨rfl, by simp [entries]⟩⟩, if_pos hkeys⟩
    · refine ⟨name, type, ⟨by simp [entries], .inl (by simp [entries])⟩, (if_pos hkeys).trans ?_⟩
      cases type <;> rfl
    · refine ⟨name, type, ⟨by simp [entries], .inl (by simp [entries])⟩, (if_pos hkeys).trans ?_⟩
      cases type <;> rfl

theorem IsMapping.exists_ok_iff (h : a.IsMapping) :
    (∃ p, a.toParameter = .ok p) ↔ a.Admitted := by
  constructor
  · rintro ⟨p, hp⟩
    by_contra hadmitted
    rw [h.toParameter_eq_error hadmitted] at hp
    cases hp
  · intro hadmitted
    obtain ⟨name, type, -, hp⟩ := h.exists_toParameter hadmitted
    exact ⟨_, hp⟩

theorem IsMapping.gives_of_toParameter (h : a.IsMapping) {p : Parameter}
    (hp : a.toParameter = .ok p) : ∃ type, a.Gives p.name type ∧ p.type = type.getD .mixed := by
  obtain ⟨name, type, hgives, hp'⟩ := h.exists_toParameter (h.exists_ok_iff.1 ⟨p, hp⟩)
  rw [hp] at hp'
  cases hp'
  exact ⟨type, hgives, rfl⟩

def ofPair (pair : Text × Ty) : Argument := fields [.name pair.1, .type (some pair.2)]

theorem toParameter_ofPair (pair : Text × Ty) :
    (ofPair pair).toParameter = .ok { name := pair.1, type := pair.2 } :=
  if_pos (.inr (keys_of_perm (.refl _) (by decide)))

end Argument

def plain (m : Method) : Method :=
  { m with
    parameters := m.parameters.map fun p =>
      { p with byReference := false, variadic := false, description := none } }

theorem arguments_plain (m : Method) : m.plain.arguments = m.arguments := by
  simp [plain, arguments]

section Arguments

variable {name : Option Text} {arguments : List Argument} {returns : Option Ty} {isStatic : Bool}
  {description : Option Text}

theorem ofArguments_eq_ok_iff {m : Method} :
    ofArguments name arguments returns isStatic description = .ok m ↔
      arguments.mapM Argument.toParameter = .ok m.parameters ∧ name = some m.name ∧
        m.returns = returns.getD .void ∧ m.isStatic = isStatic ∧ m.description = description := by
  unfold ofArguments
  constructor
  · intro h
    split at h
    · cases h
    · rename_i hparameters
      unfold ofParts at h
      split at h
      · cases h
      · cases h
      · cases h
        exact ⟨hparameters, rfl, rfl, rfl, rfl⟩
  · rintro ⟨hparameters, rfl, hreturns, rfl, rfl⟩
    obtain ⟨c, rest, hname⟩ := List.exists_cons_of_ne_nil m.name_ne_nil
    cases m
    simp_all [ofParts]

theorem exists_ofArguments_iff :
    (∃ m, ofArguments name arguments returns isStatic description = .ok m) ↔
      (∀ a ∈ arguments, ∃ p, a.toParameter = .ok p) ∧ ∃ c rest, name = some (c :: rest) := by
  simp only [ofArguments_eq_ok_iff, ← exists_mapM_eq_ok_iff]
  constructor
  · rintro ⟨m, hparameters, hname, -⟩
    obtain ⟨c, rest, e⟩ := List.exists_cons_of_ne_nil m.name_ne_nil
    exact ⟨⟨_, hparameters⟩, c, rest, by rw [hname, e]⟩
  · rintro ⟨⟨parameters, hparameters⟩, c, rest, rfl⟩
    exact ⟨⟨c :: rest, returns.getD .void, isStatic, description, parameters, by simp⟩,
      hparameters, rfl, rfl, rfl, rfl⟩

theorem ofArguments_eq_error {before after : List Argument} {a : Argument} {why : Fault}
    (hbefore : ∀ b ∈ before, ∃ p, b.toParameter = .ok p) (ha : a.toParameter = .error why) :
    ofArguments name (before ++ a :: after) returns isStatic description = .error why := by
  rw [ofArguments, mapM_eq_error hbefore ha]

end Arguments

theorem ofArguments_ofPair (m : Method) :
    ofArguments (some m.name) (m.arguments.map Argument.ofPair) (some m.returns) m.isStatic
      m.description = .ok m.plain := by
  refine ofArguments_eq_ok_iff.2 ⟨mapM_eq_ok_iff.2 ?_, rfl, rfl, rfl, rfl⟩
  simp only [arguments, plain, List.map_map, List.forall₂_map_left_iff, List.forall₂_map_right_iff,
    List.forall₂_same]
  exact fun p _ => Argument.toParameter_ofPair (p.name, p.type)

/-- Arguments in the older style make a method just if all of them have a name, perhaps a type and
    nothing else, and the method has a name. -/
theorem ofArguments_mapping (name : Option Text) {arguments : List Argument}
    (hmapping : ∀ a ∈ arguments, a.IsMapping) (returns : Option Ty) (isStatic : Bool)
    (description : Option Text) :
    ((∃ m, ofArguments name arguments returns isStatic description = .ok m) ↔
      (∀ a ∈ arguments, a.Admitted) ∧ ∃ c rest, name = some (c :: rest)) ∧
    (∀ before a after, arguments = before ++ a :: after → (∀ b ∈ before, b.Admitted) →
      ¬ a.Admitted → ∃ keys, keys.Perm (a.entries.map Field.key) ∧
        keys.Pairwise (fun k l => k.lessEq l = true) ∧
        ofArguments name arguments returns isStatic description = .error (.argumentFields keys)) ∧
    (∀ m, ofArguments name arguments returns isStatic description = .ok m →
      List.Forall₂ (fun a pair => ∃ type, a.Gives pair.1 type ∧ pair.2 = type.getD .mixed)
        arguments m.arguments) ∧
    ∀ m : Method, ofArguments (some m.name) (m.arguments.map Argument.ofPair) (some m.returns)
      m.isStatic m.description = .ok m.plain ∧ m.plain.arguments = m.arguments := by
  refine ⟨?_, ?_, fun m hm => ?_, fun m => ⟨ofArguments_ofPair m, arguments_plain m⟩⟩
  · rw [exists_ofArguments_iff]
    exact and_congr_left' (forall₂_congr fun a ha => (hmapping a ha).exists_ok_iff)
  · rintro before a after rfl hbefore ha
    have hlead : ∀ b ∈ before, ∃ p, b.toParameter = .ok p := fun b hb =>
      (hmapping b (by simp [hb])).exists_ok_iff.2 (hbefore b hb)
    have hbad := (hmapping a (by simp)).toParameter_eq_error ha
    exact ⟨a.keys, a.keys_perm, a.pairwise_keys, ofArguments_eq_error hlead hbad⟩
  · rw [ofArguments_eq_ok_iff, mapM_eq_ok_iff] at hm
    rw [Method.arguments, List.forall₂_map_right_iff]
    refine ((List.forall₂_and_left _ _).2 ⟨hmapping, hm.1⟩).imp fun a p hap => ?_
    exact hap.1.gives_of_toParameter hap.2

theorem ofArguments_mapping_unnamed :
    let good : List Argument := [.bare "speed".toList,
      .fields [.type (some (.keyword .int)), .name "distance".toList]]
    let bad : Argument := .fields [.name "x".toList, .other "default".toList]
    (∀ a ∈ good ++ [bad], a.IsMapping) ∧
      ofArguments none (good ++ [bad]) none true none =
        .error (.argumentFields ["default".toList, "name".toList]) ∧
      ∃ m, ofArguments (some "move".toList) good none true none = .ok m := by
  intro good bad
  have hmapping : ∀ a ∈ good ++ [bad], a.IsMapping := by decide
  have hgood : ∀ a ∈ good, a.Admitted := by
    refine List.forall_mem_cons.2 ⟨.inl ?_, List.forall_mem_singleton.2 (.inr ?_)⟩
    · simp [Argument.entries, Field.key]
    · simp [Argument.entries, Field.key, or_comm]
  have hbad : ¬ bad.Admitted := by
    rintro (h | h) <;> exact absurd ((h "default".toList).1 (by decide)) (by decide)
  obtain ⟨-, hfirst, -⟩ := ofArguments_mapping none hmapping none true none
  obtain ⟨keys, hperm, hsorted, herror⟩ := hfirst good bad [] rfl hgood hbad
  have hkeys : keys = ["default".toList, "name".toList] :=
    (hperm.trans (.swap _ _ _)).eq_of_pairwise (fun _ _ _ _ => Text.lessEq_antisymm) hsorted
      (by decide)
  rw [hkeys] at herror
  have hmade := (ofArguments_mapping (some "move".toList) (fun a ha => hmapping a (by simp [ha]))
    none true none).1.2 ⟨hgood, 'm', "ove".toList, rfl⟩
  exact ⟨hmapping, herror, hmade⟩

end DocTag.Method
