import DocTag.Settings.Layer
import Mathlib.Data.List.Nodup

namespace DocTag

namespace Datum

section Keys

variable {α : Type} {key : Datum} {value : α} {pairs high low : List (Datum × α)}

def Distinct (pairs : List (Datum × α)) : Prop := (pairs.map fun e => e.1.asKey).Nodup

def addKey (keys : List Datum) (key : Datum) : List Datum :=
  if ∃ k ∈ keys, k.asKey = key.asKey then keys else keys ++ [key]

@[simp] theorem distinct_nil : Distinct ([] : List (Datum × α)) := List.nodup_nil

theorem distinct_cons {e : Datum × α} :
    Distinct (e :: pairs) ↔ (∀ e' ∈ pairs, e'.1.asKey ≠ e.1.asKey) ∧ Distinct pairs := by
  simp [Distinct]

@[simp] theorem valueAt_nil : valueAt key ([] : List (Datum × α)) = none := rfl

theorem valueAt_cons (k key : Datum) (value : α) (pairs : List (Datum × α)) :
    valueAt k ((key, value) :: pairs) =
      if key.asKey = k.asKey then some value else valueAt k pairs := by
  by_cases h : key.asKey = k.asKey <;> simp [valueAt, h]

theorem valueAt_eq_none_iff {k : Datum} :
    valueAt k pairs = none ↔ ∀ e ∈ pairs, e.1.asKey ≠ k.asKey := by
  simp [valueAt]

theorem valueAt_of_mem (h : Distinct pairs) (hmem : (key, value) ∈ pairs) :
    valueAt key pairs = some value := by
  induction pairs with
  | nil => cases hmem
  | cons e pairs ih =>
    obtain ⟨hnew, hrest⟩ := distinct_cons.1 h
    rw [valueAt_cons]
    rcases List.mem_cons.1 hmem with he | hmem
    · simp [← he]
    · rw [if_neg (hnew _ hmem).symm, ih hrest hmem]

theorem mem_of_valueAt {k : Datum} (h : valueAt k pairs = some value) :
    ∃ e ∈ pairs, e.1.asKey = k.asKey ∧ e.2 = value := by
  obtain ⟨e, hfind, rfl⟩ := Option.map_eq_some_iff.1 h
  exact ⟨e, List.mem_of_find?_eq_some hfind, by simpa using List.find?_some hfind, rfl⟩

theorem forall_pairs_iff (h : Distinct pairs) {p : Datum → Prop} {q : α → Prop} :
    (∀ e ∈ pairs, p e.1 ∧ q e.2) ↔
      (∀ k ∈ pairs.map Prod.fst, p k) ∧
        ∀ k ∈ pairs.map Prod.fst, ∀ v, valueAt k pairs = some v → q v := by
  constructor
  · intro hall
    refine ⟨fun k hk => ?_, fun k _ v hv => ?_⟩
    · obtain ⟨e, he, rfl⟩ := List.mem_map.1 hk
      exact (hall e he).1
    · obtain ⟨e, he, -, rfl⟩ := mem_of_valueAt hv
      exact (hall e he).2
  · rintro ⟨hkeys, hvalues⟩ e he
    have hk := List.mem_map_of_mem (f := Prod.fst) he
    exact ⟨hkeys _ hk, hvalues _ hk _ (valueAt_of_mem h he)⟩

theorem addKey_cons (j : Datum) (keys : List Datum) (key : Datum) :
    addKey (j :: keys) key = if j.asKey = key.asKey then j :: keys else j :: addKey keys key := by
  by_cases h : j.asKey = key.asKey
  · simp [addKey, h]
  · by_cases h' : ∃ k ∈ keys, k.asKey = key.asKey <;> simp [addKey, h, h']

theorem mem_addKey {k : Datum} {keys : List Datum} (h : k ∈ addKey keys key) :
    k ∈ keys ∨ k = key := by
  unfold addKey at h
  split at h
  · exact .inl h
  · simpa using h

theorem exists_addKey (keys : List Datum) (key : Datum) :
    ∃ k ∈ addKey keys key, k.asKey = key.asKey := by
  unfold addKey
  split
  · assumption
  · exact ⟨key, by simp, rfl⟩

theorem subset_addKey (keys : List Datum) (key : Datum) : keys ⊆ addKey keys key := by
  unfold addKey
  split <;> simp

theorem subset_foldl_addKey (keys more : List Datum) : keys ⊆ more.foldl addKey keys := by
  induction more generalizing keys with
  | nil => simp
  | cons key more ih => exact List.Subset.trans (subset_addKey keys key) (ih _)

theorem mem_foldl_addKey {k : Datum} {keys more : List Datum} (h : k ∈ more.foldl addKey keys) :
    k ∈ keys ∨ k ∈ more := by
  induction more generalizing keys with
  | nil => exact .inl h
  | cons key more ih =>
    rcases ih h with h | h
    · rcases mem_addKey h with h | rfl
      · exact .inl h
      · exact .inr (by simp)
    · exact .inr (by simp [h])

theorem exists_foldl_addKey {key : Datum} {more : List Datum} (h : key ∈ more)
    (keys : List Datum) :
    ∃ k ∈ more.foldl addKey keys, k.asKey = key.asKey := by
  induction more generalizing keys with
  | nil => cases h
  | cons j more ih =>
    rcases List.mem_cons.1 h with rfl | h
    · obtain ⟨k, hk, hkey⟩ := exists_addKey keys key
      exact ⟨k, subset_foldl_addKey (addKey keys key) more hk, hkey⟩
    · exact ih h (addKey keys j)

theorem foldl_addKey_addKey (keys more : List Datum) (key : Datum) :
    (addKey more key).foldl addKey keys = addKey (more.foldl addKey keys) key := by
  by_cases h : ∃ k ∈ more, k.asKey = key.asKey
  · have hthere : ∃ k ∈ more.foldl addKey keys, k.asKey = key.asKey := by
      obtain ⟨j, hj, hkey⟩ := h
      obtain ⟨k, hk, hkey'⟩ := exists_foldl_addKey hj keys
      exact ⟨k, hk, hkey'.trans hkey⟩
    rw [addKey, if_pos h, addKey, if_pos hthere]
  · rw [addKey, if_neg h, List.foldl_append]
    rfl

theorem foldl_addKey_foldl (keys more most : List Datum) :
    (most.foldl addKey more).foldl addKey keys = most.foldl addKey (more.foldl addKey keys) := by
  induction most generalizing more with
  | nil => rfl
  | cons key most ih => rw [List.foldl_cons, List.foldl_cons, ih, foldl_addKey_addKey]

theorem nodup_addKey {keys : List Datum} (h : (keys.map asKey).Nodup) (key : Datum) :
    ((addKey keys key).map asKey).Nodup := by
  unfold addKey
  split
  · exact h
  · rename_i hnew
    rw [List.map_append]
    refine List.nodup_append.2 ⟨h, List.nodup_singleton _, ?_⟩
    rintro k hk k' hk' rfl
    obtain ⟨j, hj, e⟩ := List.mem_map.1 hk
    exact hnew ⟨j, hj, e.trans (List.mem_singleton.1 hk')⟩

theorem nodup_foldl_addKey {keys : List Datum} (h : (keys.map asKey).Nodup) (more : List Datum) :
    ((more.foldl addKey keys).map asKey).Nodup := by
  induction more generalizing keys with
  | nil => exact h
  | cons key more ih => exact ih (nodup_addKey h key)

theorem foldl_addKey_of_nodup (keys : List Datum) {more : List Datum}
    (h : ((keys ++ more).map asKey).Nodup) :
    more.foldl addKey keys = keys ++ more := by
  induction more generalizing keys with
  | nil => simp
  | cons key more ih =>
    have hnew : ¬∃ k ∈ keys, k.asKey = key.asKey := by
      rintro ⟨k, hk, e⟩
      rw [List.map_append, List.nodup_append] at h
      exact h.2.2 _ (List.mem_map_of_mem hk) _ (by simp) e
    rw [List.foldl_cons, addKey, if_neg hnew, ih _ (by simpa using h), List.append_assoc]
    rfl

theorem keys_put (key : Datum) (value : α) (pairs : List (Datum × α)) :
    (put key value pairs).map Prod.fst = addKey (pairs.map Prod.fst) key := by
  induction pairs with
  | nil => simp [put, addKey]
  | cons e pairs ih =>
    rw [put, List.map_cons, addKey_cons]
    split <;> simp [ih]

theorem valueAt_put (k key : Datum) (value : α) (pairs : List (Datum × α)) :
    valueAt k (put key value pairs) =
      if key.asKey = k.asKey then some value else valueAt k pairs := by
  induction pairs with
  | nil => rw [put, valueAt_cons]
  | cons e pairs ih =>
    rw [put]
    by_cases he : e.1.asKey = key.asKey
    · rw [if_pos he, valueAt_cons, valueAt_cons, he]
      by_cases hk : key.asKey = k.asKey <;> simp [hk]
    · rw [if_neg he, valueAt_cons, valueAt_cons, ih]
      by_cases hk : key.asKey = k.asKey
      · rw [if_neg fun h => he (h.trans hk.symm), if_pos hk, if_pos hk]
      · simp [hk]

theorem forall_put {p : Datum → Prop} {q : α → Prop} (hkey : p key) (hvalue : q value)
    (h : ∀ e ∈ pairs, p e.1 ∧ q e.2) : ∀ e ∈ put key value pairs, p e.1 ∧ q e.2 := by
  induction pairs with
  | nil => simpa [put] using ⟨hkey, hvalue⟩
  | cons e pairs ih =>
    rw [List.forall_mem_cons] at h
    rw [put]
    split
    · exact List.forall_mem_cons.2 ⟨⟨h.1.1, hvalue⟩, h.2⟩
    · exact List.forall_mem_cons.2 ⟨h.1, ih h.2⟩

theorem distinct_put (h : Distinct pairs) : Distinct (put key value pairs) := by
  induction pairs with
  | nil => simp [put, Distinct]
  | cons e pairs ih =>
    obtain ⟨hnew, hrest⟩ := distinct_cons.1 h
    rw [put]
    by_cases he : e.1.asKey = key.asKey
    · rw [if_pos he]
      exact distinct_cons.2 ⟨hnew, hrest⟩
    · rw [if_neg he]
      have hkeys : ∀ e' ∈ put key value pairs, e'.1.asKey ≠ e.1.asKey ∧ True :=
        forall_put (p := fun k => k.asKey ≠ e.1.asKey) (q := fun _ => True)
          (fun h => he h.symm) trivial fun e' he' => ⟨hnew e' he', trivial⟩
      exact distinct_cons.2 ⟨fun e' he' => (hkeys e' he').1, ih hrest⟩

theorem distinct_putAll (h : Distinct low) (high : List (Datum × α)) :
    Distinct (putAll high low) := by
  induction high generalizing low with
  | nil => exact h
  | cons e high ih => exact ih (distinct_put h)

theorem forall_putAll {p : Datum → Prop} {q : α → Prop} (hhigh : ∀ e ∈ high, p e.1 ∧ q e.2)
    (hlow : ∀ e ∈ low, p e.1 ∧ q e.2) : ∀ e ∈ putAll high low, p e.1 ∧ q e.2 := by
  induction high generalizing low with
  | nil => exact hlow
  | cons e high ih =>
    rw [List.forall_mem_cons] at hhigh
    exact ih hhigh.2 (forall_put hhigh.1.1 hhigh.1.2 hlow)

end Keys

section Merged

variable {high low : List (Datum × Datum)}

/-- A value with all that a mapping holds left out. -/
def outline : Datum → Datum
  | mapping _ => mapping []
  | d => d

theorem keys_atopAll (high low : List (Datum × Datum)) :
    (atopAll high low).map Prod.fst = (high.map Prod.fst).foldl addKey (low.map Prod.fst) := by
  induction high generalizing low with
  | nil => simp [atopAll]
  | cons e high ih => rw [atopAll, ih, keys_put, List.map_cons, List.foldl_cons]

theorem outline_atop (high low : Datum) : (high.atop low).outline = high.outline := by
  cases high with
  | mapping => cases low <;> simp [atop, outline]
  | _ => simp [atop]

theorem outline_valueAt_atopAll (h : Distinct high) (low : List (Datum × Datum)) (key : Datum) :
    (valueAt key (atopAll high low)).map outline =
      ((valueAt key high).or (valueAt key low)).map outline := by
  induction high generalizing low with
  | nil => simp [atopAll]
  | cons e high ih =>
    obtain ⟨hnew, hrest⟩ := distinct_cons.1 h
    rw [atopAll, ih hrest, valueAt_cons, valueAt_put]
    by_cases he : e.1.asKey = key.asKey
    · have hnone : valueAt key high = none := valueAt_eq_none_iff.2 (he ▸ hnew)
      rw [hnone, if_pos he, if_pos he]
      cases valueAt e.1 low with
      | none => rfl
      | some under => exact congrArg some (outline_atop e.2 under)
    · rw [if_neg he, if_neg he]

end Merged

/-- The keys of all mappings within a value are distinct. -/
inductive Proper : Datum → Prop
  | null : Proper .null
  | bool (b) : Proper (.bool b)
  | int (n) : Proper (.int n)
  | real (r) : Proper (.real r)
  | undefined (mark) : Proper (.undefined mark)
  | moment (m) : Proper (.moment m)
  | text (t) : Proper (.text t)
  | garbled (t) : Proper (.garbled t)
  | bytes (bs) : Proper (.bytes bs)
  | list {items} (h : ∀ d ∈ items, Proper d) : Proper (.list items)
  | pair {a b} (ha : Proper a) (hb : Proper b) : Proper (.pair a b)
  | set {items} (h : ∀ d ∈ items, Proper d) : Proper (.set items)
  | mapping {pairs} (distinct : Distinct pairs) (keys : ∀ e ∈ pairs, Proper e.1)
      (values : ∀ e ∈ pairs, Proper e.2) : Proper (.mapping pairs)

attribute [simp] Proper.null Proper.bool Proper.int Proper.real Proper.undefined Proper.moment
  Proper.text Proper.garbled Proper.bytes

theorem proper_ofLoose (t : Loose) : (ofLoose t).Proper := by
  unfold ofLoose
  split
  · exact .text _
  · exact .garbled _

theorem proper_ofLiteral (literal : Text) : (ofLiteral literal).Proper := by
  unfold ofLiteral
  dsimp only
  split
  · exact .int _
  · exact .real _

theorem proper_putAll {pairs : List (Datum × Datum)} (h : ∀ e ∈ pairs, e.1.Proper ∧ e.2.Proper) :
    (mapping (putAll pairs [])).Proper :=
  have hall := forall_putAll h (List.forall_mem_nil _)
  .mapping (distinct_putAll distinct_nil _) (fun e he => (hall e he).1) fun e he => (hall e he).2

mutual

theorem proper_ofJson : (j : Json) → (ofJson j).Proper
  | .null => .null
  | .bool b => .bool b
  | .number literal => proper_ofLiteral literal
  | .text t => .text t
  | .garbled t => .garbled t
  | .list items => .list (proper_ofJsonAll items)
  | .object members => proper_putAll (proper_ofJsonMembers members)
  | .mixed keys values => by
    refine proper_putAll fun e he => ⟨?_, ?_⟩
    · obtain ⟨key, -, hkey⟩ := List.mem_map.1 (List.of_mem_zip he).1
      exact hkey ▸ proper_ofLoose key
    · exact proper_ofJsonAll values e.2 (List.of_mem_zip he).2

theorem proper_ofJsonAll : (items : List Json) → ∀ d ∈ ofJsonAll items, d.Proper
  | [] => by simp [ofJsonAll]
  | j :: items => List.forall_mem_cons.2 ⟨proper_ofJson j, proper_ofJsonAll items⟩

theorem proper_ofJsonMembers :
    (members : List (Text × Json)) → ∀ e ∈ ofJsonMembers members, e.1.Proper ∧ e.2.Proper
  | [] => by simp [ofJsonMembers]
  | (key, j) :: members =>
    List.forall_mem_cons.2 ⟨⟨.text key, proper_ofJson j⟩, proper_ofJsonMembers members⟩

end

end Datum

end DocTag
