import DocTag.Proofs.Settings.Layer
import Mathlib.Data.List.Find

namespace DocTag.Settings

open Datum (Distinct outline)
open Layer (highest mapsOf)

section Assign

variable {α : Type} {name : Text} {value : α} {m : List (Text × α)}

theorem lookup_cons_eq_ite (k : Text) (pair : Text × α) (m : List (Text × α)) :
    (pair :: m).lookup k = if k = pair.1 then some pair.2 else m.lookup k := by
  rw [List.lookup_cons]
  by_cases h : k = pair.1
  · rw [if_pos h, beq_iff_eq.2 h]
  · rw [if_neg h, beq_eq_false_iff_ne.2 h]

theorem lookup_assign (k name : Text) (value : α) (m : List (Text × α)) :
    (assign name value m).lookup k = if k = name then some value else m.lookup k := by
  induction m with
  | nil => exact lookup_cons_eq_ite k (name, value) []
  | cons pair m ih =>
    rw [assign]
    by_cases h : pair.1 = name
    · subst h
      by_cases hk : k = pair.1 <;> simp [lookup_cons_eq_ite, hk]
    · rw [if_neg h, lookup_cons_eq_ite, lookup_cons_eq_ite, ih]
      by_cases hk : k = pair.1
      · subst hk
        simp [h]
      · simp [hk]

theorem names_assign (name : Text) (value : α) (m : List (Text × α)) :
    (assign name value m).map Prod.fst =
      if name ∈ m.map Prod.fst then m.map Prod.fst else m.map Prod.fst ++ [name] := by
  induction m with
  | nil => simp [assign]
  | cons pair m ih =>
    rw [assign]
    by_cases h : pair.1 = name
    · simp [h]
    · rw [if_neg h, List.map_cons, ih, List.map_cons]
      by_cases h' : name ∈ m.map Prod.fst
      · rw [if_pos h', if_pos (.tail _ h')]
      · rw [if_neg h', if_neg (by simp [h', Ne.symm h]), List.cons_append]

theorem nodup_assign (h : (m.map Prod.fst).Nodup) :
    ((assign name value m).map Prod.fst).Nodup := by
  rw [names_assign]
  split
  · exact h
  · rename_i hnew
    refine List.nodup_append.2 ⟨h, List.nodup_singleton _, ?_⟩
    rintro k hk k' hk' rfl
    exact hnew (List.mem_singleton.1 hk' ▸ hk)

theorem lookup_foldl_assign (pairs m : List (Text × α)) (n : Text) :
    (pairs.foldl (fun m (name, value) => assign name value m) m).lookup n =
      ((pairs.reverse.find? fun e => e.1 = n).map Prod.snd).or (m.lookup n) := by
  induction pairs generalizing m with
  | nil => rfl
  | cons e pairs ih =>
    rw [List.foldl_cons, ih, lookup_assign, List.reverse_cons, List.find?_append]
    cases pairs.reverse.find? fun e => e.1 = n with
    | some e' => rfl
    | none => by_cases h : n = e.1 <;> simp [h, eq_comm]

theorem lookup_assignAll (pairs : List (Text × α)) (n : Text) :
    (assignAll pairs).lookup n = (pairs.reverse.find? fun e => e.1 = n).map Prod.snd := by
  rw [assignAll, lookup_foldl_assign]
  simp

theorem nodup_assignAll (pairs : List (Text × α)) : ((assignAll pairs).map Prod.fst).Nodup := by
  suffices h : ∀ m : List (Text × α), (m.map Prod.fst).Nodup →
      ((pairs.foldl (fun m (name, value) => assign name value m) m).map Prod.fst).Nodup from
    h [] List.nodup_nil
  induction pairs with
  | nil => exact fun m hm => hm
  | cons e pairs ih => exact fun m hm => ih _ (nodup_assign hm)

end Assign

namespace Support

variable {P E : Type} (support : Support P E)

/-- What counts in some layers, the first one the highest, is what settings can hold: the highest
    value of each field, the keys of the aliases, and their highest targets. -/
structure Fits (layers : List Layer) : Prop where
  configFile : ∀ d, highest layers .configFile = some d → ∃ path, support.path d = .ok path
  ns : ∀ d, highest layers .ns = some d → ∃ t, support.text d = .ok t
  logLevel : ∀ d, highest layers .logLevel = some d → ∃ t, support.text d = .ok t
  aliases : ∀ d, highest layers .aliases = some d → ∃ pairs, d = .mapping pairs
  names : ∀ key ∈ keysFrom (mapsOf layers .aliases), ∃ t, support.text key = .ok t
  targets : ∀ key ∈ keysFrom (mapsOf layers .aliases), ∀ d,
    valueFrom (mapsOf layers .aliases) key = some d → ∃ t, support.text d = .ok t

def lastSpelling (name : Text) (keys : List Datum) : Option Datum :=
  keys.reverse.find? fun key => support.text? key = some name

/-- Settings in which the highest layer counts, field by field, and for the aliases key by key. -/
structure Combined (layers : List Layer) (s : Settings) : Prop where
  configFile :
    match highest layers .configFile with
    | some (.text t) => s.configFile = some (normalPath t)
    | some d => support.path d = .ok s.configFile
    | none => s.configFile = none
  ns :
    match highest layers .ns with
    | some d => support.text d = .ok s.ns
    | none => s.ns = []
  logLevel :
    match highest layers .logLevel with
    | some d => ∃ t, support.text d = .ok t ∧ s.logLevel = t.upper
    | none => s.logLevel = "WARNING".toList
  names : (s.aliases.map Prod.fst).Nodup
  aliases (name : Text) :
    s.aliases.lookup name =
      ((support.lastSpelling name (keysFrom (mapsOf layers .aliases))).bind
        (valueFrom (mapsOf layers .aliases))).bind support.text?

variable {support}

theorem ofLayer_eq_ok_iff {l : Layer} {s : Settings} :
    support.ofLayer l = .ok s ↔
      judged support.path none (l .configFile) = .ok s.configFile ∧
        judged support.text [] (l .ns) = .ok s.ns ∧
        judged support.texts [] (l .aliases) = .ok s.aliases ∧
        judged support.level "WARNING".toList (l .logLevel) = .ok s.logLevel := by
  unfold ofLayer
  split
  · rename_i hfile hns haliases hlevel
    rw [hfile, hns, haliases, hlevel]
    cases s
    simp [Settings.mk.injEq]
  · rename_i hall
    refine iff_of_false nofun ?_
    rintro ⟨hfile, hns, haliases, hlevel⟩
    exact hall _ _ _ _ hfile hns haliases hlevel

theorem judged_eq_ok_iff {α : Type} {read : Datum → Except P α} {default a : α}
    {d? : Option Datum} :
    judged read default d? = .ok a ↔
      match d? with
      | some d => read d = .ok a
      | none => a = default := by
  cases d? with
  | none => exact ⟨fun h => (Except.ok.inj h).symm, fun h => h ▸ rfl⟩
  | some d => rfl

theorem exists_judged_iff {α : Type} {read : Datum → Except P α} {default : α}
    {d? : Option Datum} :
    (∃ a, judged read default d? = .ok a) ↔ ∀ d, d? = some d → ∃ a, read d = .ok a := by
  cases d? with
  | none => exact iff_of_true ⟨default, rfl⟩ nofun
  | some d => simp [judged]

theorem level_eq_ok_iff {d : Datum} {t : Text} :
    support.level d = .ok t ↔ ∃ u, support.text d = .ok u ∧ t = u.upper := by
  unfold level
  cases support.text d with
  | error => exact iff_of_false nofun (by simp)
  | ok u => simp [Except.map, eq_comm]

theorem mem_of_lastSpelling {name : Text} {keys : List Datum} {key : Datum}
    (h : support.lastSpelling name keys = some key) : key ∈ keys ∧ support.text key = .ok name :=
  ⟨List.mem_reverse.1 (List.mem_of_find?_eq_some h),
    text?_eq_some_iff.1 (by simpa using List.find?_some h)⟩

theorem lastSpelling_eq_none_iff {name : Text} {keys : List Datum} :
    support.lastSpelling name keys = none ↔ ∀ key ∈ keys, support.text key ≠ .ok name := by
  simp only [lastSpelling, List.find?_eq_none, List.mem_reverse, decide_eq_true_eq, Ne,
    text?_eq_some_iff]

end Support

section Judged

variable {P E : Type} {support : Support P E} {high : Layer} {lower layers : List Layer}

theorem distinct_of_mem_mapsOf (hdistinct : ∀ l ∈ layers, l.IsDistinct) (f : Field) :
    ∀ pairs ∈ mapsOf layers f, Distinct pairs := by
  intro pairs hpairs
  obtain ⟨l, hl, hmapping⟩ := Layer.mem_mapsOf.1 hpairs
  exact hdistinct l hl f pairs hmapping

theorem forall_foldl_merge_iff (hsupport : support.Lawful)
    (hdistinct : ∀ l ∈ high :: lower, l.IsDistinct) {f : Field} {p : Datum → Prop}
    (hp : ∀ pairs, ¬p (.mapping pairs)) :
    (∀ d, (lower.foldl support.merge high) f = some d → p d) ↔
      ∀ d, highest (high :: lower) f = some d → p d := by
  by_cases h : ∃ pairs, highest (high :: lower) f = some (.mapping pairs)
  · obtain ⟨pairs, h⟩ := h
    obtain ⟨merged, hmerge, -⟩ :=
      hsupport.foldl_merge_of_mapping h (distinct_of_mem_mapsOf hdistinct f)
    simp [h, hmerge, hp]
  · rw [hsupport.foldl_merge_of_highest fun pairs e => h ⟨pairs, e⟩]

theorem forall_text_congr (hsupport : support.Lawful) {a b : Option Datum}
    (h : a.map outline = b.map outline) :
    (∀ d, a = some d → ∃ t, support.text d = .ok t) ↔
      ∀ d, b = some d → ∃ t, support.text d = .ok t := by
  have hbind := hsupport.bind_text?_congr h
  cases a with
  | none => cases b <;> simp_all
  | some d =>
    cases b with
    | none => simp at h
    | some d' =>
      have hd : support.text? d = support.text? d' := hbind
      simp only [Option.some.injEq, forall_eq', ← Support.text?_eq_some_iff, hd]

section Texts

variable {pairs : List (Datum × Datum)} {texts m : List (Text × Text)}

def IsPlain (support : Support P E) (pairs : List (Datum × Datum)) (texts : List (Text × Text)) :
    Prop :=
  List.Forall₂ (fun e t => support.text e.1 = .ok t.1 ∧ support.text e.2 = .ok t.2) pairs texts

theorem exists_isPlain_iff :
    (∃ texts, IsPlain support pairs texts) ↔
      ∀ e ∈ pairs, (∃ t, support.text e.1 = .ok t) ∧ ∃ t, support.text e.2 = .ok t := by
  induction pairs with
  | nil => exact iff_of_true ⟨[], .nil⟩ (List.forall_mem_nil _)
  | cons e pairs ih =>
    rw [List.forall_mem_cons, ← ih]
    constructor
    · rintro ⟨_, _ | ⟨⟨hkey, hvalue⟩, hrest⟩⟩
      exact ⟨⟨⟨_, hkey⟩, _, hvalue⟩, _, hrest⟩
    · rintro ⟨⟨⟨t, ht⟩, u, hu⟩, texts, hrest⟩
      exact ⟨(t, u) :: texts, .cons ⟨ht, hu⟩ hrest⟩

theorem lookup_of_isPlain (hpairs : Distinct pairs) (h : IsPlain support pairs texts)
    (name : Text) :
    (assignAll texts).lookup name =
      ((support.lastSpelling name (pairs.map Prod.fst)).bind fun key =>
        Datum.valueAt key pairs).bind support.text? := by
  have hreverse := List.forall₂_reverse_iff.2 h
  rw [lookup_assignAll, Support.lastSpelling, ← List.map_reverse, List.find?_map]
  have hmem : ∀ e ∈ pairs.reverse, Datum.valueAt e.1 pairs = some e.2 := fun e he =>
    Datum.valueAt_of_mem hpairs (List.mem_reverse.1 he)
  generalize pairs.reverse = rs at hreverse hmem
  generalize texts.reverse = ts at hreverse
  induction hreverse with
  | nil => rfl
  | @cons e t rs ts ht _ ih =>
    obtain ⟨he, hrs⟩ := List.forall_mem_cons.1 hmem
    have hkey : support.text? e.1 = some t.1 := Support.text?_eq_some_iff.2 ht.1
    by_cases hname : t.1 = name
    · simp [hkey, hname, he, Support.text?_eq_some_iff.2 ht.2]
    · simpa [hkey, hname] using ih hrs

end Texts

theorem exists_texts_iff (hsupport : support.Lawful) {merged : List (Datum × Datum)}
    {maps : List (List (Datum × Datum))} (h : IsMerged merged maps) :
    (∃ m, support.texts (.mapping merged) = .ok m) ↔
      (∀ key ∈ keysFrom maps, ∃ t, support.text key = .ok t) ∧
        ∀ key ∈ keysFrom maps, ∀ d, valueFrom maps key = some d →
          ∃ t, support.text d = .ok t := by
  have htexts : (∃ m, support.texts (.mapping merged) = .ok m) ↔
      ∃ texts, IsPlain support merged texts := by
    constructor
    · rintro ⟨m, hm⟩
      obtain ⟨_, texts, ⟨⟩, -, hplain⟩ := hsupport.texts_iff.1 hm
      exact ⟨texts, hplain⟩
    · rintro ⟨texts, hplain⟩
      exact ⟨_, hsupport.texts_iff.2 ⟨merged, texts, rfl, rfl, hplain⟩⟩
  rw [htexts, exists_isPlain_iff, Datum.forall_pairs_iff h.distinct
    (p := fun k => ∃ t, support.text k = .ok t) (q := fun d => ∃ t, support.text d = .ok t), h.keys]
  simp only [forall_text_congr hsupport (h.values _)]

theorem aliases_judged (hsupport : support.Lawful)
    (hdistinct : ∀ l ∈ high :: lower, l.IsDistinct) :
    (∀ d, (lower.foldl support.merge high) .aliases = some d → ∃ m, support.texts d = .ok m) ↔
      (∀ d, highest (high :: lower) .aliases = some d → ∃ pairs, d = .mapping pairs) ∧
        (∀ key ∈ keysFrom (mapsOf (high :: lower) .aliases), ∃ t, support.text key = .ok t) ∧
        ∀ key ∈ keysFrom (mapsOf (high :: lower) .aliases), ∀ d,
          valueFrom (mapsOf (high :: lower) .aliases) key = some d →
            ∃ t, support.text d = .ok t := by
  by_cases hm : ∃ top, highest (high :: lower) .aliases = some (.mapping top)
  · obtain ⟨top, htop⟩ := hm
    obtain ⟨merged, hmerge, hmerged⟩ :=
      hsupport.foldl_merge_of_mapping htop (distinct_of_mem_mapsOf hdistinct .aliases)
    simp [htop, hmerge, exists_texts_iff hsupport hmerged]
  · rw [hsupport.foldl_merge_of_highest fun pairs e => hm ⟨pairs, e⟩]
    cases h : highest (high :: lower) .aliases with
    | none => simp [Layer.mapsOf_of_highest h, keysFrom]
    | some d =>
      have hd : ∀ pairs, d ≠ .mapping pairs := fun pairs e => hm ⟨pairs, e ▸ h⟩
      have hbad : ∀ m, support.texts d ≠ .ok m := by
        intro m htexts
        obtain ⟨pairs, -, rfl, -⟩ := hsupport.texts_iff.1 htexts
        exact hd pairs rfl
      simp [hd, hbad]

theorem exists_ofLayer_iff {l : Layer} :
    (∃ s, support.ofLayer l = .ok s) ↔
      (∀ d, l .configFile = some d → ∃ path, support.path d = .ok path) ∧
        (∀ d, l .ns = some d → ∃ t, support.text d = .ok t) ∧
        (∀ d, l .aliases = some d → ∃ m, support.texts d = .ok m) ∧
        ∀ d, l .logLevel = some d → ∃ t, support.level d = .ok t := by
  simp only [Support.ofLayer_eq_ok_iff]
  constructor
  · rintro ⟨s, hfile, hns, haliases, hlevel⟩
    exact ⟨Support.exists_judged_iff.1 ⟨_, hfile⟩, Support.exists_judged_iff.1 ⟨_, hns⟩,
      Support.exists_judged_iff.1 ⟨_, haliases⟩, Support.exists_judged_iff.1 ⟨_, hlevel⟩⟩
  · rintro ⟨hfile, hns, haliases, hlevel⟩
    obtain ⟨path, hfile⟩ := Support.exists_judged_iff.2 hfile
    obtain ⟨ns, hns⟩ := Support.exists_judged_iff.2 hns
    obtain ⟨aliases, haliases⟩ := Support.exists_judged_iff.2 haliases
    obtain ⟨level, hlevel⟩ := Support.exists_judged_iff.2 hlevel
    exact ⟨⟨path, ns, aliases, level⟩, hfile, hns, haliases, hlevel⟩

theorem exists_ofLayer_foldl_iff (hsupport : support.Lawful)
    (hdistinct : ∀ l ∈ high :: lower, l.IsDistinct) :
    (∃ s, support.ofLayer (lower.foldl support.merge high) = .ok s) ↔
      support.Fits (high :: lower) := by
  have hlevel (d : Datum) : (∃ t, support.level d = .ok t) ↔ ∃ t, support.text d = .ok t := by
    simp [Support.level_eq_ok_iff]
  have hpath (pairs : List (Datum × Datum)) : ¬∃ path, support.path (.mapping pairs) = .ok path :=
    fun ⟨_, h⟩ => (hsupport.path_cases h).2 pairs rfl
  have htext (pairs : List (Datum × Datum)) : ¬∃ t, support.text (.mapping pairs) = .ok t :=
    fun ⟨t, h⟩ => hsupport.text_mapping pairs t h
  simp only [exists_ofLayer_iff, hlevel, aliases_judged hsupport hdistinct]
  rw [forall_foldl_merge_iff hsupport hdistinct hpath,
    forall_foldl_merge_iff hsupport hdistinct htext,
    forall_foldl_merge_iff hsupport hdistinct htext]
  constructor
  · rintro ⟨hfile, hns, ⟨haliases, hnames, htargets⟩, hlevel⟩
    exact ⟨hfile, hns, hlevel, haliases, hnames, htargets⟩
  · rintro ⟨hfile, hns, hlevel, haliases, hnames, htargets⟩
    exact ⟨hfile, hns, ⟨haliases, hnames, htargets⟩, hlevel⟩

theorem exists_aliases_of_ofLayer (hsupport : support.Lawful)
    (hdistinct : ∀ l ∈ high :: lower, l.IsDistinct) {s : Settings}
    (h : support.ofLayer (lower.foldl support.merge high) = .ok s) :
    ∃ pairs texts, s.aliases = assignAll texts ∧ IsPlain support pairs texts ∧
      IsMerged pairs (mapsOf (high :: lower) .aliases) := by
  have hfits := (exists_ofLayer_foldl_iff hsupport hdistinct).1 ⟨s, h⟩
  have haliases := (Support.ofLayer_eq_ok_iff.1 h).2.2.1
  rw [Support.judged_eq_ok_iff] at haliases
  cases htop : highest (high :: lower) .aliases with
  | none =>
    rw [hsupport.foldl_merge_of_highest (by simp [htop]), htop] at haliases
    rw [Layer.mapsOf_of_highest htop]
    exact ⟨[], [], haliases, .nil, rfl, fun _ => rfl⟩
  | some d =>
    obtain ⟨top, rfl⟩ := hfits.aliases d htop
    obtain ⟨merged, hmerge, hmerged⟩ :=
      hsupport.foldl_merge_of_mapping htop (distinct_of_mem_mapsOf hdistinct .aliases)
    rw [hmerge] at haliases
    obtain ⟨_, texts, ⟨⟩, htexts, hplain⟩ := hsupport.texts_iff.1 haliases
    exact ⟨merged, texts, htexts, hplain, hmerged⟩

theorem combined_of_ofLayer (hsupport : support.Lawful)
    (hdistinct : ∀ l ∈ high :: lower, l.IsDistinct) {s : Settings}
    (h : support.ofLayer (lower.foldl support.merge high) = .ok s) :
    support.Combined (high :: lower) s := by
  have hfits := (exists_ofLayer_foldl_iff hsupport hdistinct).1 ⟨s, h⟩
  obtain ⟨pairs, texts, haliases, hplain, hmerged⟩ :=
    exists_aliases_of_ofLayer hsupport hdistinct h
  obtain ⟨hfile, hns, -, hlevel⟩ := Support.ofLayer_eq_ok_iff.1 h
  -- Only aliases are merged: the other fields fit, so they hold no mappings.
  have hscalar (f : Field) (p : Datum → Prop) (hp : ∀ pairs, ¬p (.mapping pairs))
      (hf : ∀ d, highest (high :: lower) f = some d → p d) :
      (lower.foldl support.merge high) f = highest (high :: lower) f :=
    hsupport.foldl_merge_of_highest fun pairs e => hp pairs (hf _ e)
  have htext (pairs : List (Datum × Datum)) : ¬∃ t, support.text (.mapping pairs) = .ok t :=
    fun ⟨t, h⟩ => hsupport.text_mapping pairs t h
  rw [hscalar .configFile _ (fun pairs ⟨_, h⟩ => (hsupport.path_cases h).2 pairs rfl)
    hfits.configFile, Support.judged_eq_ok_iff] at hfile
  rw [hscalar .ns _ htext hfits.ns, Support.judged_eq_ok_iff] at hns
  rw [hscalar .logLevel _ htext hfits.logLevel, Support.judged_eq_ok_iff] at hlevel
  refine ⟨?_, hns, ?_, haliases ▸ nodup_assignAll texts, fun name => ?_⟩
  · split
    · rename_i t ht
      simp only [ht, hsupport.path_text] at hfile
      exact (Except.ok.inj hfile).symm
    · rename_i d _ hd
      rwa [hd] at hfile
    · rename_i hnone
      rwa [hnone] at hfile
  · simpa only [Support.level_eq_ok_iff] using hlevel
  · rw [haliases, lookup_of_isPlain hmerged.distinct hplain, hmerged.keys]
    cases support.lastSpelling name (keysFrom (mapsOf (high :: lower) .aliases)) with
    | none => rfl
    | some key => exact hsupport.bind_text?_congr (hmerged.values key)

end Judged

end DocTag.Settings
