import DocTag.Proofs.Settings.Support

namespace DocTag.Settings

open Datum (Distinct valueAt addKey outline)

def keysFrom (maps : List (List (Datum × Datum))) : List Datum :=
  maps.foldr (fun pairs keys => (pairs.map Prod.fst).foldl addKey keys) []

def valueFrom (maps : List (List (Datum × Datum))) (key : Datum) : Option Datum :=
  maps.findSome? (valueAt key)

structure IsMerged (pairs : List (Datum × Datum)) (maps : List (List (Datum × Datum))) : Prop where
  keys : pairs.map Prod.fst = keysFrom maps
  values (key : Datum) : (valueAt key pairs).map outline = (valueFrom maps key).map outline

section Merged

variable {pairs : List (Datum × Datum)} {maps : List (List (Datum × Datum))}

theorem keysFrom_cons (pairs : List (Datum × Datum)) (maps : List (List (Datum × Datum))) :
    keysFrom (pairs :: maps) = (pairs.map Prod.fst).foldl addKey (keysFrom maps) := rfl

theorem exists_of_mem_keysFrom {key : Datum} (h : key ∈ keysFrom maps) :
    ∃ pairs ∈ maps, key ∈ pairs.map Prod.fst := by
  induction maps with
  | nil => cases h
  | cons pairs maps ih =>
    rcases Datum.mem_foldl_addKey h with h | h
    · obtain ⟨pairs', hmem, hkey⟩ := ih h
      exact ⟨pairs', .tail _ hmem, hkey⟩
    · exact ⟨pairs, .head _, h⟩

theorem exists_mem_keysFrom {key : Datum} (hpairs : pairs ∈ maps)
    (hkey : key ∈ pairs.map Prod.fst) : ∃ k ∈ keysFrom maps, k.asKey = key.asKey := by
  induction maps with
  | nil => cases hpairs
  | cons first maps ih =>
    rw [keysFrom_cons]
    rcases List.mem_cons.1 hpairs with rfl | hpairs
    · exact Datum.exists_foldl_addKey hkey _
    · obtain ⟨k, hk, e⟩ := ih hpairs
      exact ⟨k, Datum.subset_foldl_addKey _ _ hk, e⟩

theorem keysFrom_singleton (h : Distinct pairs) : keysFrom [pairs] = pairs.map Prod.fst :=
  Datum.foldl_addKey_of_nodup [] (by simpa [Distinct, Function.comp_def] using h)

theorem keysFrom_concat (maps : List (List (Datum × Datum))) {low : List (Datum × Datum)}
    (h : Distinct low) :
    keysFrom (maps ++ [low]) = (keysFrom maps).foldl addKey (low.map Prod.fst) := by
  induction maps with
  | nil => exact keysFrom_singleton h
  | cons pairs maps ih =>
    rw [List.cons_append, keysFrom_cons, keysFrom_cons, ih, Datum.foldl_addKey_foldl]

theorem nodup_keysFrom (maps : List (List (Datum × Datum))) :
    ((keysFrom maps).map Datum.asKey).Nodup := by
  induction maps with
  | nil => exact List.nodup_nil
  | cons pairs maps ih => exact Datum.nodup_foldl_addKey ih _

theorem IsMerged.singleton (h : Distinct pairs) : IsMerged pairs [pairs] where
  keys := (keysFrom_singleton h).symm
  values key := by
    rw [valueFrom, List.findSome?_singleton]

theorem IsMerged.distinct (h : IsMerged pairs maps) : Distinct pairs := by
  have hkeys := nodup_keysFrom maps
  rwa [← h.keys, List.map_map] at hkeys

theorem IsMerged.concat (h : IsMerged pairs maps) {low merged : List (Datum × Datum)}
    (hlow : Distinct low) (hmerged : Merges pairs low merged) :
    IsMerged merged (maps ++ [low]) where
  keys := by rw [hmerged.lower_first, h.keys, keysFrom_concat maps hlow]
  values key := by
    rw [hmerged.key_wise, Option.map_or, h.values, ← Option.map_or, valueFrom, valueFrom,
      List.findSome?_append, List.findSome?_singleton]

end Merged

namespace Layer

def highest (layers : List Layer) (f : Field) : Option Datum := layers.findSome? fun l => l f

def mapsOf (layers : List Layer) (f : Field) : List (List (Datum × Datum)) :=
  layers.filterMap fun l =>
    match l f with
    | some (.mapping pairs) => some pairs
    | _ => none

variable {layers : List Layer} {f : Field} {pairs : List (Datum × Datum)}

theorem highest_cons (l : Layer) (layers : List Layer) (f : Field) :
    highest (l :: layers) f = (l f).or (highest layers f) := by
  rw [highest, List.findSome?_cons]
  cases l f <;> rfl

theorem mapsOf_cons (l : Layer) (layers : List Layer) (f : Field) :
    mapsOf (l :: layers) f =
      match l f with
      | some (.mapping pairs) => pairs :: mapsOf layers f
      | _ => mapsOf layers f := by
  unfold mapsOf
  rw [List.filterMap_cons]
  split <;> split at * <;> simp_all

theorem mem_mapsOf : pairs ∈ mapsOf layers f ↔ ∃ l ∈ layers, l f = some (.mapping pairs) := by
  unfold mapsOf
  rw [List.mem_filterMap]
  refine exists_congr fun l => and_congr_right fun _ => ?_
  split <;> simp_all

theorem mapsOf_of_highest (h : highest layers f = none) : mapsOf layers f = [] := by
  rw [highest, List.findSome?_eq_none_iff] at h
  refine List.filterMap_eq_nil_iff.2 fun l hl => ?_
  rw [h l hl]

end Layer

namespace Support.Lawful

open Layer (highest highest_cons mapsOf mapsOf_cons)

variable {P E : Type} {support : Support P E} {high : Layer} {lower : List Layer} {f : Field}

theorem foldl_merge_of_highest (hsupport : support.Lawful)
    (h : ∀ pairs, highest (high :: lower) f ≠ some (.mapping pairs)) :
    (lower.foldl support.merge high) f = highest (high :: lower) f := by
  induction lower generalizing high with
  | nil => simp [highest]
  | cons low lower ih =>
    have hstep : (support.merge high low) f = (high f).or (low f) := by
      cases hhigh : high f with
      | none => exact hsupport.merge_none hhigh
      | some d =>
        refine hsupport.merge_rank hhigh fun hs _ hd => absurd ?_ (h hs)
        rw [highest_cons, hhigh, hd]
        rfl
    have hhighest : highest (support.merge high low :: lower) f =
        highest (high :: low :: lower) f := by
      rw [highest_cons, hstep, highest_cons, highest_cons, Option.or_assoc]
    rw [List.foldl_cons, ih (by rwa [hhighest]), hhighest]

theorem foldl_merge_of_merged (hsupport : support.Lawful) {pairs : List (Datum × Datum)}
    {maps : List (List (Datum × Datum))} (h : high f = some (.mapping pairs))
    (hmerged : IsMerged pairs maps) (hlower : ∀ low ∈ mapsOf lower f, Distinct low) :
    ∃ merged, (lower.foldl support.merge high) f = some (.mapping merged) ∧
      IsMerged merged (maps ++ mapsOf lower f) := by
  induction lower generalizing high pairs maps with
  | nil => exact ⟨pairs, h, by simpa [mapsOf] using hmerged⟩
  | cons low lower ih =>
    by_cases hlow : ∃ ls, low f = some (.mapping ls)
    · obtain ⟨ls, hlow⟩ := hlow
      rw [mapsOf_cons, hlow] at hlower ⊢
      obtain ⟨hls, hlower⟩ := List.forall_mem_cons.1 hlower
      obtain ⟨merged, hmerge, hmerges⟩ := hsupport.merge_mapping h hlow hmerged.distinct hls
      simpa using ih hmerge (hmerged.concat hls hmerges) hlower
    · have hmaps : mapsOf (low :: lower) f = mapsOf lower f := by
        rw [mapsOf_cons]
        split
        · rename_i ls hls
          exact absurd ⟨ls, hls⟩ hlow
        · rfl
      rw [hmaps] at hlower ⊢
      refine ih ?_ hmerged hlower
      exact hsupport.merge_rank h fun _ ls _ hls => hlow ⟨ls, hls⟩

theorem foldl_merge_of_mapping (hsupport : support.Lawful) {pairs : List (Datum × Datum)}
    (h : highest (high :: lower) f = some (.mapping pairs))
    (hdistinct : ∀ pairs ∈ mapsOf (high :: lower) f, Distinct pairs) :
    ∃ merged, (lower.foldl support.merge high) f = some (.mapping merged) ∧
      IsMerged merged (mapsOf (high :: lower) f) := by
  induction lower generalizing high with
  | nil =>
    have hhigh : high f = some (.mapping pairs) := by simpa [highest_cons, highest] using h
    have hmaps : mapsOf [high] f = [pairs] := by simp [hhigh, mapsOf]
    rw [hmaps] at hdistinct ⊢
    exact ⟨pairs, hhigh, .singleton (hdistinct pairs (by simp))⟩
  | cons low lower ih =>
    cases hhigh : high f with
    | none =>
      have hmerge : (support.merge high low) f = low f := hsupport.merge_none hhigh
      have hmaps : mapsOf (support.merge high low :: lower) f =
          mapsOf (high :: low :: lower) f := by
        rw [mapsOf_cons, mapsOf_cons high, mapsOf_cons low, hmerge, hhigh]
      rw [← hmaps] at hdistinct ⊢
      refine ih ?_ hdistinct
      rw [highest_cons, hmerge, ← highest_cons]
      simpa [highest_cons high, hhigh] using h
    | some d =>
      obtain rfl : d = .mapping pairs := by simpa [highest_cons, hhigh] using h
      have hmaps : mapsOf (high :: low :: lower) f = pairs :: mapsOf (low :: lower) f := by
        rw [mapsOf_cons, hhigh]
      rw [hmaps] at hdistinct ⊢
      obtain ⟨hpairs, hlower⟩ := List.forall_mem_cons.1 hdistinct
      exact hsupport.foldl_merge_of_merged hhigh (.singleton hpairs) hlower

end Support.Lawful

end DocTag.Settings
