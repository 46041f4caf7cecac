import DocTag.Proofs.Settings.Support
import DocTag.Proofs.Yaml
import DocTag.Settings.Standard

namespace DocTag.Settings

open Datum (Distinct)

section Sources

variable {P : Type}

theorem distinct_of_proper {l : Layer} (h : ∀ f d, l f = some d → d.Proper) : l.IsDistinct := by
  intro f pairs hl
  cases h f _ hl with
  | mapping distinct => exact distinct

theorem yields_valueOf (lead : Text) (env : List (Text × Text)) (f : Field) :
    Yields (fun d? => ∀ d, d? = some d → d.Proper)
      (valueOf lead env f : Except (LoadFault P) _) := by
  unfold valueOf
  split
  · exact .ok nofun
  · split
    · split
      · exact .error _
      · exact .ok nofun
      · split
        · exact .ok fun _ h => by cases h; exact Datum.proper_ofJson _
        · exact .error _
    · exact .ok fun _ h => by cases h; exact .text _

theorem valueOf_of_ofVariables {lead : Text} {env : List (Text × Text)} {l : Layer} (f : Field)
    (h : (Layer.ofVariables lead env : Except (LoadFault P) Layer) = .ok l) :
    (valueOf lead env f : Except (LoadFault P) _) = .ok (l f) := by
  simp only [Layer.ofVariables, bind_eq_ok_iff] at h
  obtain ⟨_, h₁, _, h₂, _, h₃, _, h₄, ⟨⟩⟩ := h
  cases f with
  | configFile => exact h₁
  | ns => exact h₂
  | aliases => exact h₃
  | logLevel => exact h₄

theorem fieldText?_cases (lead : Text) (env : List (Text × Text)) (f : Field) :
    (fieldText? lead env f = none ∧ ∀ v ∈ env, v.1.lower ≠ (lead ++ f.name).lower) ∨
      ∃ v ∈ env, v.1.lower = (lead ++ f.name).lower ∧ fieldText? lead env f = some v.2 := by
  unfold fieldText?
  cases h : env.reverse.find? fun v => v.1.lower == (lead ++ f.name).lower with
  | none => exact .inl ⟨rfl, by simpa using h⟩
  | some v =>
    exact .inr ⟨v, List.mem_reverse.1 (List.mem_of_find?_eq_some h),
      by simpa using List.find?_some h, rfl⟩

theorem yields_entryAt (key : Datum) {value : Datum} (h : value.Proper) :
    Yields (fun e => e.2.Proper) (entryAt key value : Except (LoadFault P) _) := by
  unfold entryAt
  split
  · exact .ok h
  · exact .error _

theorem yields_entryOf {d : Datum} (h : d.Proper) :
    Yields (fun e => e.2.Proper) (entryOf d : Except (LoadFault P) _) := by
  unfold entryOf
  split
  · exact .ok (.text _)
  · exact .ok (Datum.proper_ofLoose _)
  · cases h with
    | list h => exact yields_entryAt _ (h _ (by simp))
  · cases h with
    | pair _ h => exact yields_entryAt _ h
  · cases h with
    | mapping _ keys _ => exact .ok (keys _ (.tail _ (.head _)))
  · cases h with
    | set h => exact .ok (h _ (by simp))
  · exact .ok (.int _)
  all_goals exact .error _

theorem yields_entries {d : Datum} (h : d.Proper) :
    Yields (fun es => ∀ e ∈ es, e.2.Proper) (entries d : Except (LoadFault P) _) := by
  unfold entries
  split
  · exact .ok (by simp)
  · split
    · cases h with
      | mapping _ _ values => exact .ok values
    · cases h with
      | list h => exact .mapM fun d hd => yields_entryOf (h d hd)
    · cases h with
      | set h => exact .mapM fun d hd => yields_entryOf (h d hd)
    all_goals exact .error _

namespace World

variable (w : World)

theorem yields_entriesOf (path : Text) :
    Yields (fun es => ∀ e ∈ es, e.2.Proper) (w.entriesOf path : Except (LoadFault P) _) := by
  unfold entriesOf
  split
  · exact .error _
  · exact .ok (by simp)
  · split
    · exact .error _
    · rename_i hread
      exact yields_entries (Yaml.yields_read _ _ hread)

theorem yields_entriesNamed (d : Datum) :
    Yields (fun es => ∀ e ∈ es, e.2.Proper) (w.entriesNamed d : Except (LoadFault P) _) := by
  unfold entriesNamed
  split
  · split
    · exact .error _
    · exact w.yields_entriesOf _
  · exact .error _

theorem yields_entriesNamedAll (d : Datum) :
    Yields (fun es => ∀ e ∈ es, e.2.Proper) (w.entriesNamedAll d : Except (LoadFault P) _) := by
  unfold entriesNamedAll
  refine Yields.bind (Yields.mapM fun d _ => w.yields_entriesNamed d) fun lists hlists => ?_
  have hflat : ∀ e ∈ lists.flatten, True ∧ e.2.Proper := by
    intro e he
    obtain ⟨es, hes, he⟩ := List.mem_flatten.1 he
    exact ⟨trivial, hlists es hes e he⟩
  dsimp only
  split
  · exact .ok fun e he => (Datum.forall_putAll (p := fun _ => True) hflat (by simp) e he).2
  · exact .error _

variable {w} {files : List (Text × Text)}

theorem entriesNamed_files {d : Datum} (h : ∀ t path, d = .text t → w.expand t = .ok path →
      files.lookup path = w.files.lookup path) :
    ({ w with files }.entriesNamed d : Except (LoadFault P) _) = w.entriesNamed d := by
  cases d with
  | text t =>
    rw [entriesNamed, entriesNamed]
    cases hpath : w.expand t with
    | error why => rfl
    | ok path =>
      have htext : { w with files }.textOf? path = w.textOf? path := by
        rw [textOf?, textOf?, h t path rfl hpath]
      simp only [entriesOf, htext]
  | _ => rfl

theorem entriesNamedAll_files {d : Datum}
    (h : ∀ path, w.Names d path → files.lookup path = w.files.lookup path) :
    ({ w with files }.entriesNamedAll d : Except (LoadFault P) _) = w.entriesNamedAll d := by
  have hparts : (d.parts.mapM { w with files }.entriesNamed : Except (LoadFault P) _) =
      d.parts.mapM w.entriesNamed := by
    have hmem (t : Text) (path : Text) (ht : .text t ∈ d.parts) (hpath : w.expand t = .ok path) :=
      h path ⟨t, ht, hpath⟩
    generalize d.parts = parts at hmem
    induction parts with
    | nil => rfl
    | cons part parts ih =>
      rw [List.mapM_cons, List.mapM_cons, ih fun t path ht => hmem t path (.tail _ ht),
        entriesNamed_files fun t path hd => hmem t path (hd ▸ .head _)]
  rw [entriesNamedAll, entriesNamedAll, hparts]

end World

theorem ofEntries_eq_ok_iff {pairs : List (Datum × Datum)} {l : Layer} :
    (Layer.ofEntries pairs : Except (LoadFault P) Layer) = .ok l ↔
      (∀ e ∈ pairs, e.1.isBytes = false) ∧ Layer.ofPairs pairs = l := by
  unfold Layer.ofEntries
  split
  · rename_i h
    obtain ⟨e, he, hbytes⟩ := List.any_eq_true.1 h
    exact iff_of_false nofun fun hall => by simp_all
  · rename_i h
    have hall : ∀ e ∈ pairs, e.1.isBytes = false := by simpa using h
    exact ⟨fun hl => ⟨hall, Except.ok.inj hl⟩, fun hl => congrArg _ hl.2⟩

theorem distinct_ofPairs {pairs : List (Datum × Datum)} (h : ∀ e ∈ pairs, e.2.Proper) :
    (Layer.ofPairs pairs).IsDistinct := by
  refine distinct_of_proper fun f d hd => ?_
  obtain ⟨e, hfind, rfl⟩ := Option.map_eq_some_iff.1 hd
  exact h e (List.mem_of_find?_eq_some hfind)

end Sources

theorem problemsAt_eq_nil_iff {place : List Text} {m : Except (List Problem) α} :
    problemsAt place m = [] ↔ m = .error [] ∨ ∃ a, m = .ok a := by
  cases m <;> simp [problemsAt]

theorem textOf_ne_error_nil (d : Datum) : textOf d ≠ .error [] := by
  unfold textOf
  split
  · simp
  · split <;> simp
  all_goals simp

theorem plainText_eq {d : Datum} {t : Text} (h : textOf d = .ok t) : plainText d = t := by
  rw [plainText, h]
  rfl

theorem entryProblems_eq_nil_iff {e : Datum × Datum} :
    entryProblems e = [] ↔
      textOf e.1 = .ok (plainText e.1) ∧ textOf e.2 = .ok (plainText e.2) := by
  have htext (d : Datum) : (∃ t, textOf d = .ok t) ↔ textOf d = .ok (plainText d) :=
    ⟨fun ⟨t, ht⟩ => by rw [plainText_eq ht, ht], fun h => ⟨_, h⟩⟩
  simp only [entryProblems, List.append_eq_nil_iff, problemsAt_eq_nil_iff, textOf_ne_error_nil,
    false_or, htext]

theorem textsOf_mapping_eq_ok_iff {pairs : List (Datum × Datum)} {m : List (Text × Text)} :
    textsOf (.mapping pairs) = .ok m ↔
      (∀ e ∈ pairs, textOf e.1 = .ok (plainText e.1) ∧ textOf e.2 = .ok (plainText e.2)) ∧
        m = assignAll (pairs.map fun e => (plainText e.1, plainText e.2)) := by
  simp only [← entryProblems_eq_nil_iff, ← List.flatMap_eq_nil_iff]
  rw [textsOf]
  split
  · rename_i h
    simp [h, eq_comm]
  · rename_i h
    exact iff_of_false nofun fun hall => h hall.1

theorem textsOf_eq_ok_iff {d : Datum} {m : List (Text × Text)} :
    textsOf d = .ok m ↔
      ∃ pairs texts, d = .mapping pairs ∧ m = assignAll texts ∧
        List.Forall₂ (fun e t => textOf e.1 = .ok t.1 ∧ textOf e.2 = .ok t.2) pairs texts := by
  constructor
  · intro h
    cases d with
    | mapping pairs =>
      obtain ⟨hall, hm⟩ := textsOf_mapping_eq_ok_iff.1 h
      exact ⟨pairs, _, rfl, hm, List.forall₂_map_right_iff.2 (List.forall₂_same.2 hall)⟩
    | _ => cases h
  · rintro ⟨pairs, texts, rfl, rfl, h⟩
    have hplain : (∀ e ∈ pairs, textOf e.1 = .ok (plainText e.1) ∧
        textOf e.2 = .ok (plainText e.2)) ∧
        texts = pairs.map fun e => (plainText e.1, plainText e.2) := by
      induction h with
      | nil => exact ⟨List.forall_mem_nil _, rfl⟩
      | @cons e t pairs texts ht _ ih =>
        rw [List.forall_mem_cons, List.map_cons, plainText_eq ht.1, plainText_eq ht.2]
        exact ⟨⟨ht, ih.1⟩, congrArg _ ih.2⟩
    exact textsOf_mapping_eq_ok_iff.2 ⟨hplain.1, congrArg assignAll hplain.2⟩

theorem merges_atopAll {high : List (Datum × Datum)} (h : Distinct high)
    (low : List (Datum × Datum)) : Merges high low (Datum.atopAll high low) :=
  ⟨Datum.keys_atopAll high low, Datum.outline_valueAt_atopAll h low⟩

theorem standard_lawful (folder : Text → Place → Except Fault Text) :
    (standard folder).Lawful where
  environment_text {lead env l f} h hf := by
    have hvalue := valueOf_of_ofVariables f h
    rcases fieldText?_cases lead env f with ⟨hnone, hall⟩ | ⟨v, hv, hname, hsome⟩
    · simp only [valueOf, hnone] at hvalue
      exact .inl ⟨(Except.ok.inj hvalue).symm, hall⟩
    · simp only [valueOf, hsome, if_neg hf] at hvalue
      exact .inr ⟨v, hv, hname, (Except.ok.inj hvalue).symm⟩
  environment_distinct {lead env l} h :=
    distinct_of_proper fun f d hd =>
      yields_valueOf lead env f _ (valueOf_of_ofVariables f h) d hd
  entries_files h := World.entriesNamedAll_files h
  fields_distinct {w d entries l} hentries h := by
    obtain ⟨-, rfl⟩ := ofEntries_eq_ok_iff.1 h
    exact distinct_ofPairs (w.yields_entriesNamedAll d _ hentries)
  merge_none h := by simp only [standard, Layer.atop, h]
  merge_rank {high low f d} h hlow := by
    simp only [standard, Layer.atop, h]
    cases hd : low f with
    | none => rfl
    | some low =>
      cases d with
      | mapping hs =>
        cases low with
        | mapping ls => exact absurd hd (hlow hs ls rfl)
        | _ => simp [Datum.atop]
      | _ => simp [Datum.atop]
  merge_mapping hhigh hlow hhs _ := by
    simp only [standard, Layer.atop, hhigh, hlow, Datum.atop]
    exact ⟨_, rfl, merges_atopAll hhs _⟩
  text_text t := rfl
  text_cases {d t} h := by
    cases d with
    | text u =>
      cases h
      exact .inl rfl
    | bytes bs => exact .inr ⟨bs, rfl⟩
    | _ => cases h
  path_text t := rfl
  path_cases {d path} h := by
    cases d with
    | null | text => exact ⟨rfl, by simp⟩
    | _ => cases h
  texts_iff := textsOf_eq_ok_iff

end DocTag.Settings
