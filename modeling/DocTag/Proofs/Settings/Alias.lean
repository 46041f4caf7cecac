import DocTag.Proofs.Settings.Load
import DocTag.Proofs.Ty.Interchange

namespace DocTag.Settings

open Datum (Distinct valueAt)
open Layer (mapsOf)

section Names

variable {α : Type} {p : Text → Bool}

theorem map_snd_find? (m : List (Text × α)) :
    (m.find? fun e => p e.1).map Prod.snd =
      ((m.map Prod.fst).find? p).bind fun name => m.lookup name := by
  induction m with
  | nil => rfl
  | cons pair m ih =>
    rw [List.map_cons, List.find?_cons, List.find?_cons]
    by_cases h : p pair.1
    · simp [h, lookup_cons_eq_ite]
    · simp only [h, ih]
      refine Option.bind_congr fun name hname => ?_
      have hne : name ≠ pair.1 := by
        rintro rfl
        exact h (List.find?_some hname)
      rw [lookup_cons_eq_ite, if_neg hne]

theorem find?_append_singleton_of_mem {a : Text} {names : List Text} (h : a ∈ names) :
    (names ++ [a]).find? p = names.find? p := by
  rw [List.find?_append]
  cases hfind : names.find? p with
  | some b => rfl
  | none => simpa using List.find?_eq_none.1 hfind a h

theorem find?_names_foldl_assign (pairs m : List (Text × α)) :
    ((pairs.foldl (fun m (name, value) => assign name value m) m).map Prod.fst).find? p =
      (m.map Prod.fst ++ pairs.map Prod.fst).find? p := by
  induction pairs generalizing m with
  | nil => rw [List.foldl_nil, List.map_nil, List.append_nil]
  | cons e pairs ih =>
    rw [List.foldl_cons, ih, List.map_cons, List.append_cons, List.find?_append,
      List.find?_append, names_assign]
    split
    · rename_i h
      rw [find?_append_singleton_of_mem h]
    · rfl

theorem find?_names_assignAll (pairs : List (Text × α)) :
    ((assignAll pairs).map Prod.fst).find? p = (pairs.map Prod.fst).find? p :=
  find?_names_foldl_assign pairs []

end Names

variable {P E : Type}

namespace Support

variable (support : Support P E)

def covers (head : Text) (key : Datum) : Bool :=
  (support.text? key).any fun name => name.lower == head.lower

def holder? (head : Text) (maps : List (List (Datum × Datum))) : Option (List (Datum × Datum)) :=
  maps.find? fun pairs => pairs.any fun e => support.covers head e.1

/-- The key that counts for a head: the first one that covers it, or the last one that spells the
    same as that. -/
def counting (head : Text) (keys : List Datum) : Option Datum :=
  (keys.find? (support.covers head)).bind fun key =>
    (support.text? key).bind fun name => support.lastSpelling name keys

end Support

section Counting

variable {support : Support P E} {head : Text} {layers : List Layer} {s : Settings}

theorem covers_iff {key : Datum} :
    support.covers head key = true ↔
      ∃ name, support.text key = .ok name ∧ name.lower = head.lower := by
  simp only [← Support.text?_eq_some_iff]
  unfold Support.covers
  cases support.text? key <;> simp

theorem find?_of_isPlain {pairs : List (Datum × Datum)} {texts : List (Text × Text)}
    (h : IsPlain support pairs texts) (head : Text) :
    (texts.map Prod.fst).find? (fun name => name.lower == head.lower) =
      ((pairs.map Prod.fst).find? (support.covers head)).bind support.text? := by
  induction h with
  | nil => rfl
  | @cons e t pairs texts ht _ ih =>
    have hkey := Support.text?_eq_some_iff.2 ht.1
    have hcovers : support.covers head e.1 = (t.1.lower == head.lower) := by
      simp [Support.covers, hkey]
    rw [List.map_cons, List.map_cons, List.find?_cons, List.find?_cons, hcovers]
    cases t.1.lower == head.lower with
    | true => exact hkey.symm
    | false => exact ih

theorem target?_eq (hcombined : support.Combined layers s) {pairs : List (Datum × Datum)}
    {texts : List (Text × Text)} (haliases : s.aliases = assignAll texts)
    (hplain : IsPlain support pairs texts) (hmerged : IsMerged pairs (mapsOf layers .aliases))
    (ns : Option Text) :
    (s.scope ns).target? head =
      ((support.counting head (keysFrom (mapsOf layers .aliases))).bind
        (valueFrom (mapsOf layers .aliases))).bind support.text? := by
  change (s.aliases.find? fun e => e.1.lower == head.lower).map Prod.snd = _
  rw [map_snd_find? (p := fun name => name.lower == head.lower)]
  simp only [hcombined.aliases]
  rw [haliases, find?_names_assignAll, find?_of_isPlain hplain, hmerged.keys, Support.counting]
  simp only [Option.bind_assoc]

theorem exists_counting {keys : List Datum} (h : ∃ key ∈ keys, support.covers head key = true) :
    ∃ key ∈ keys, support.counting head keys = some key ∧ support.covers head key = true := by
  obtain ⟨first, hfirst⟩ := Option.isSome_iff_exists.1 (List.find?_isSome.2 h)
  obtain ⟨name, hname, hlower⟩ := covers_iff.1 (List.find?_some hfirst)
  have hmem := List.mem_of_find?_eq_some hfirst
  cases hlast : support.lastSpelling name keys with
  | none => exact absurd hname (Support.lastSpelling_eq_none_iff.1 hlast first hmem)
  | some key =>
    obtain ⟨hkey, hspell⟩ := Support.mem_of_lastSpelling hlast
    refine ⟨key, hkey, ?_, covers_iff.2 ⟨name, hspell, hlower⟩⟩
    rw [Support.counting, hfirst, Option.bind_some, Support.text?_eq_some_iff.2 hname,
      Option.bind_some, hlast]

end Counting

section Holder

variable {support : Support P E} {head : Text} {maps : List (List (Datum × Datum))}
  {pairs : List (Datum × Datum)}

theorem mem_keysFrom_of_covers (hsupport : support.Lawful) (hpairs : pairs ∈ maps)
    {e : Datum × Datum} (he : e ∈ pairs) (hcovers : support.covers head e.1 = true) :
    e.1 ∈ keysFrom maps := by
  obtain ⟨name, hname, -⟩ := covers_iff.1 hcovers
  obtain ⟨key, hkey, hsame⟩ := exists_mem_keysFrom hpairs (List.mem_map_of_mem (f := Prod.fst) he)
  rwa [hsupport.eq_of_asKey hname hsame] at hkey

theorem exists_valueFrom {key : Datum} (h : key ∈ keysFrom maps) :
    ∃ d, valueFrom maps key = some d := by
  obtain ⟨pairs, hpairs, hmem⟩ := exists_of_mem_keysFrom h
  obtain ⟨e, he, rfl⟩ := List.mem_map.1 hmem
  cases hvalue : valueFrom maps e.1 with
  | some d => exact ⟨d, rfl⟩
  | none =>
    have hnone := List.findSome?_eq_none_iff.1 hvalue pairs hpairs
    exact absurd rfl (Datum.valueAt_eq_none_iff.1 hnone e he)

theorem exists_covered (h : support.holder? head maps = some pairs) :
    pairs ∈ maps ∧ ∃ e ∈ pairs, support.covers head e.1 = true :=
  ⟨List.mem_of_find?_eq_some h, by simpa using List.find?_some h⟩

theorem valueFrom_eq_of_holder (hsupport : support.Lawful) {key : Datum}
    (h : support.holder? head maps = some pairs) (hcovers : support.covers head key = true)
    (hkey : ∃ e ∈ pairs, e.1.asKey = key.asKey) : valueFrom maps key = valueAt key pairs := by
  obtain ⟨name, hname, -⟩ := covers_iff.1 hcovers
  induction maps with
  | nil => cases h
  | cons first maps ih =>
    rw [valueFrom, List.findSome?_cons]
    rw [Support.holder?, List.find?_cons] at h
    split at h
    · obtain rfl := Option.some.inj h
      cases hvalue : valueAt key first with
      | some d => rfl
      | none =>
        obtain ⟨e, he, hsame⟩ := hkey
        exact absurd hsame (Datum.valueAt_eq_none_iff.1 hvalue e he)
    · rename_i hfirst
      have hnone : valueAt key first = none := by
        refine Datum.valueAt_eq_none_iff.2 fun e he hsame => ?_
        have hcovered := List.any_eq_false.1 hfirst e he
        exact hcovered (hsupport.eq_of_asKey hname hsame ▸ hcovers)
      rw [hnone]
      exact ih h

end Holder

/-- A class whose first segment is an alias of some source, up to letter case, gets the target of
the first key of all sources that is spelled like it, those of the lowest source coming first. The
target is one of the highest source with such a key if that source has the key itself. -/
theorem resolve_aliased {support : Support P E} (hsupport : support.Lawful) (w : World)
    (given : List (Datum × Datum)) (hgiven : (support.caller given).IsDistinct) {s : Settings}
    (hs : load support w given = .ok s) :
    ∃ layers, support.Gives w given layers ∧
      ∀ (ns : Option Text) (raw name : Text), Ty.read? raw = some (.object name) →
        (name.head? = some '\\' → Ty.resolve (s.scope ns) raw = .ok (.object name)) ∧
        ∀ pairs, name.head? ≠ some '\\' →
          support.holder? (name.takeWhile (· != '\\')) (mapsOf layers .aliases) = some pairs →
          ∃ key target,
            support.counting (name.takeWhile (· != '\\')) (keysFrom (mapsOf layers .aliases)) =
              some key ∧
            (∃ d, valueFrom (mapsOf layers .aliases) key = some d ∧ support.text d = .ok target) ∧
            Ty.resolve (s.scope ns) raw =
              .ok (.object ('\\' :: target.stripOf '\\' ++ name.dropWhile (· != '\\'))) ∧
            ((∃ e ∈ pairs, e.1.asKey = key.asKey) →
              ∃ e ∈ pairs, support.covers (name.takeWhile (· != '\\')) e.1 = true ∧
                support.text e.2 = .ok target) := by
  obtain ⟨high, lower, hgives, hs⟩ := (load_eq_ok_iff hsupport).1 hs
  have hdistinct := distinct_of_gives hsupport hgiven hgives
  have hfits := (exists_ofLayer_foldl_iff hsupport hdistinct).1 ⟨s, hs⟩
  have hcombined := combined_of_ofLayer hsupport hdistinct hs
  obtain ⟨merged, texts, haliases, hplain, hmerged⟩ :=
    exists_aliases_of_ofLayer hsupport hdistinct hs
  refine ⟨high :: lower, hgives, ?_⟩
  intro ns raw name hread
  refine ⟨fun hhead => ?_, fun pairs hhead hholder => ?_⟩
  · obtain ⟨rest, rfl⟩ := List.head?_eq_some_iff.1 hhead
    rw [Ty.resolve, hread]
    rfl
  generalize hseg : name.takeWhile (· != '\\') = head at hholder ⊢
  obtain ⟨hmem, e, he, hcovered⟩ := exists_covered hholder
  obtain ⟨key, hkey, hcounting, hcovers⟩ :=
    exists_counting ⟨e.1, mem_keysFrom_of_covers hsupport hmem he hcovered, hcovered⟩
  obtain ⟨d, hd⟩ := exists_valueFrom hkey
  obtain ⟨target, ht⟩ := hfits.targets key hkey d hd
  refine ⟨key, target, hcounting, ⟨d, hd, ht⟩, ?_, fun hthere => ?_⟩
  · have htarget : (s.scope ns).target? head = some target := by
      rw [target?_eq hcombined haliases hplain hmerged, hcounting, Option.bind_some, hd]
      exact Support.text?_eq_some_iff.2 ht
    rw [Ty.resolve, hread]
    simp only [Ty.qualify, Scope.qualify_eq hhead, hseg, Scope.bare?, htarget, Option.map_some]
  · obtain ⟨n, hn, -⟩ := covers_iff.1 hcovers
    rw [valueFrom_eq_of_holder hsupport hholder hcovers hthere] at hd
    obtain ⟨e', he', hsame, rfl⟩ := Datum.mem_of_valueAt hd
    exact ⟨e', he', by rwa [hsupport.eq_of_asKey hn hsame], ht⟩

theorem resolve_aliased_lower :
    let support := standard fun program p =>
      .ok (joinPath ((p.environment.lookup "XDG_CONFIG_HOME".toList).getD []) program)
    let w : World :=
      { environment := [("XDG_CONFIG_HOME".toList, "/c".toList),
          ("DOCBLOCK_MCP_ALIASES".toList, "\x7b\"http\": \"B\"\x7d".toList)]
        files := [("/c/docblock-mcp/config.yaml".toList,
          "aliases: \x7bHttp: A\x7d".toList)] }
    let s : Settings := { aliases := [("Http".toList, ['A']), ("http".toList, ['B'])] }
    support.Lawful ∧ (support.caller []).IsDistinct ∧ load support w [] = .ok s ∧
      ∃ layers, support.Gives w [] layers ∧
        support.holder? "http".toList (mapsOf layers .aliases) =
          some [(.text "http".toList, .text ['B'])] ∧
        ∃ key target,
          support.counting "http".toList (keysFrom (mapsOf layers .aliases)) = some key ∧
          (valueFrom (mapsOf layers .aliases) key).map support.text = some (.ok target) ∧
          Ty.resolve (s.scope none) "http".toList = .ok (.object ('\\' :: target.stripOf '\\')) ∧
          target.stripOf '\\' = ['A'] := by
  intro support w s
  have hsupport : support.Lawful := standard_lawful _
  have hgiven : (support.caller []).IsDistinct := nofun
  have hload : load support w [] = .ok s := eq_ok_of_toOption (by decide +kernel)
  obtain ⟨layers, hgives, hresolve⟩ := resolve_aliased hsupport w [] hgiven hload
  have hholder : support.holder? "http".toList (mapsOf layers .aliases) =
      some [(.text "http".toList, .text ['B'])] := by
    obtain @⟨_, _, environment, file, _, henvironment, _, _⟩ := hgives
    have haliases : environment .aliases = some (.mapping [(.text "http".toList, .text ['B'])]) :=
      aliases_of_ofVariables (m := [("http".toList, .text ['B'])]) henvironment
        (by decide +kernel) (by decide +kernel) (by decide +kernel)
    rw [Layer.mapsOf_cons, Layer.mapsOf_cons, haliases]
    rfl
  have hread : Ty.read? "http".toList = some (.object "http".toList) := by decide +kernel
  obtain ⟨key, target, hcounting, ⟨d, hd, ht⟩, hresolved, -⟩ :=
    (hresolve none _ _ hread).2 _ (by decide) hholder
  have hA : Ty.resolve (s.scope none) "http".toList = .ok (.object ['\\', 'A']) :=
    eq_ok_of_toOption (by decide +kernel)
  refine ⟨hsupport, hgiven, hload, layers, hgives, hholder, key, target, hcounting,
    by simp [hd, ht], ?_, ?_⟩
  · simpa using hresolved
  · rw [hA] at hresolved
    simpa using hresolved.symm

end DocTag.Settings
