import DocTag.Proofs.Json
import DocTag.Proofs.Settings.Fields
import DocTag.Proofs.Settings.Standard

/-!
Loading settings. Of all files only those that the sources name are read, and the sources are
combined by rank: the caller, the environment, the file. All this is shown for any support that does
what loading relies on.
-/

namespace DocTag.Settings

open Layer (highest mapsOf)

variable {P E : Type}

namespace Support

inductive Picks (support : Support P E) (p : Place) (caller : Layer) : Datum → Prop
  | caller {d} (hcaller : (caller .configFile).filter Datum.isGiven = some d) :
      Picks support p caller d
  | environment {l v} (hcaller : (caller .configFile).filter Datum.isGiven = none)
      (hl : support.environment variableLead p.environment = .ok l) (hv : v ∈ p.environment)
      (hname : v.1.lower = (variableLead ++ Field.configFile.name).lower) (ht : v.2 ≠ [])
      (hvalue : l .configFile = some (.text v.2)) : Picks support p caller (.text v.2)
  | standard {l folder} (hcaller : (caller .configFile).filter Datum.isGiven = none)
      (hl : support.environment variableLead p.environment = .ok l)
      (hvalue : (∀ v ∈ p.environment,
          v.1.lower ≠ (variableLead ++ Field.configFile.name).lower) ∨
        l .configFile = some (.text []))
      (hfolder : support.folder programName p = .ok folder) :
      Picks support p caller (.text (joinPath folder configName))

def Reads (support : Support P E) (p : Place) (caller : Layer) (path : Text) : Prop :=
  ∃ d, support.Picks p caller d ∧ p.Names d path

/-- What the sources give, the highest first. -/
inductive Gives (support : Support P E) (w : World) (given : List (Datum × Datum)) :
    List Layer → Prop
  | intro {d entries environment file} (hd : support.Picks w.toPlace (support.caller given) d)
      (henvironment : support.environment variableLead w.environment = .ok environment)
      (hentries : support.entries w d = .ok entries) (hfile : support.fields entries = .ok file) :
      Gives support w given [support.caller given, environment, file]

end Support

section Load

variable {support : Support P E} {p : Place} {w : World} {caller : Layer} {d : Datum}
  {given : List (Datum × Datum)} {layers : List Layer} {s : Settings}

theorem filter_isGiven_text (t : Text) :
    (some (Datum.text t)).filter Datum.isGiven = if t = [] then none else some (.text t) := by
  cases t <;> rfl

theorem file_eq_ok_iff (hsupport : support.Lawful) :
    support.file p caller = .ok d ↔ support.Picks p caller d := by
  unfold Support.file
  cases hcaller : (caller .configFile).filter Datum.isGiven with
  | some d' =>
    constructor
    · rintro ⟨⟩
      exact .caller hcaller
    · intro h
      cases h with
      | caller h => exact congrArg _ (Option.some.inj (hcaller.symm.trans h))
      | environment h | standard h => cases hcaller.symm.trans h
  | none =>
    simp only [bind_eq_ok_iff]
    constructor
    · rintro ⟨l, hl, h⟩
      rcases hsupport.environment_text hl (f := .configFile) nofun with ⟨hnone, hall⟩ |
        ⟨v, hv, hname, hvalue⟩
      · simp only [hnone, Option.filter_none, bind_eq_ok_iff] at h
        obtain ⟨folder, hfolder, ⟨⟩⟩ := h
        exact .standard hcaller hl (.inl hall) hfolder
      · rw [hvalue, filter_isGiven_text] at h
        by_cases ht : v.2 = []
        · simp only [if_pos ht, bind_eq_ok_iff] at h
          obtain ⟨folder, hfolder, ⟨⟩⟩ := h
          exact .standard hcaller hl (.inr (ht ▸ hvalue)) hfolder
        · simp only [if_neg ht] at h
          cases h
          exact .environment hcaller hl hv hname ht hvalue
    · intro h
      cases h with
      | caller h => cases hcaller.symm.trans h
      | @environment l v _ hl _ _ ht hvalue =>
        refine ⟨l, hl, ?_⟩
        rw [hvalue, filter_isGiven_text, if_neg ht]
      | @standard l folder _ hl hvalue hfolder =>
        have hnone : (l .configFile).filter Datum.isGiven = none := by
          rcases hvalue with hall | hempty
          · rcases hsupport.environment_text hl (f := .configFile) nofun with ⟨hnone, -⟩ |
              ⟨v, hv, hname, -⟩
            · rw [hnone]
              rfl
            · exact absurd hname (hall v hv)
          · rw [hempty]
            rfl
        refine ⟨l, hl, ?_⟩
        simp only [hnone, hfolder]
        rfl

theorem Support.Picks.unique (hsupport : support.Lawful) {other : Datum}
    (h : support.Picks p caller d) (hother : support.Picks p caller other) : other = d :=
  Except.ok.inj (((file_eq_ok_iff hsupport).2 hother).symm.trans ((file_eq_ok_iff hsupport).2 h))

theorem load_files (hsupport : support.Lawful) {files : List (Text × Text)}
    (h : ∀ path, support.Reads w.toPlace (support.caller given) path →
      files.lookup path = w.files.lookup path) :
    load support { w with files } given = load support w given := by
  unfold load
  dsimp only
  cases hfile : support.file w.toPlace (support.caller given) with
  | error why => rfl
  | ok d =>
    have hentries : support.entries { w with files } d = support.entries w d :=
      hsupport.entries_files fun path hpath =>
        h path ⟨d, (file_eq_ok_iff hsupport).1 hfile, hpath⟩
    change (support.entries { w with files } d >>= _) = (support.entries w d >>= _)
    rw [hentries]

theorem load_eq_ok_iff (hsupport : support.Lawful) :
    load support w given = .ok s ↔ ∃ high lower, support.Gives w given (high :: lower) ∧
      support.ofLayer (lower.foldl support.merge high) = .ok s := by
  simp only [load, bind_eq_ok_iff, file_eq_ok_iff hsupport]
  constructor
  · rintro ⟨d, hd, entries, hentries, environment, henvironment, file, hfile, h⟩
    exact ⟨_, _, .intro hd henvironment hentries hfile, h⟩
  · rintro ⟨_, _, ⟨hd, henvironment, hentries, hfile⟩, h⟩
    exact ⟨_, hd, _, hentries, _, henvironment, _, hfile, h⟩

theorem distinct_of_gives (hsupport : support.Lawful) (hgiven : (support.caller given).IsDistinct)
    (h : support.Gives w given layers) : ∀ l ∈ layers, l.IsDistinct := by
  cases h with
  | intro hd henvironment hentries hfile =>
    simpa using ⟨hgiven, hsupport.environment_distinct henvironment,
      hsupport.fields_distinct hentries hfile⟩

theorem exists_load_iff (hsupport : support.Lawful) (hgiven : (support.caller given).IsDistinct) :
    (∃ s, load support w given = .ok s) ↔
      ∃ layers, support.Gives w given layers ∧ support.Fits layers := by
  simp only [load_eq_ok_iff hsupport]
  constructor
  · rintro ⟨s, high, lower, hgives, hs⟩
    exact ⟨_, hgives, (exists_ofLayer_foldl_iff hsupport
      (distinct_of_gives hsupport hgiven hgives)).1 ⟨s, hs⟩⟩
  · rintro ⟨layers, hgives, hfits⟩
    obtain ⟨high, lower, rfl⟩ : ∃ high lower, layers = high :: lower := by
      cases hgives with
      | intro => exact ⟨_, _, rfl⟩
    obtain ⟨s, hs⟩ := (exists_ofLayer_foldl_iff hsupport
      (distinct_of_gives hsupport hgiven hgives)).2 hfits
    exact ⟨s, high, lower, hgives, hs⟩

theorem Support.Picks.parts_eq (hsupport : support.Lawful) (hd : support.Picks p caller d)
    {lower : List Layer} (hfits : support.Fits (caller :: lower)) : d.parts = [d] := by
  cases hd with
  | caller hcaller =>
    obtain ⟨hd, -⟩ := Option.filter_eq_some_iff.1 hcaller
    obtain ⟨path, hpath⟩ := hfits.configFile d (by simp [Layer.highest_cons, hd])
    exact (hsupport.path_cases hpath).1
  | environment | standard => rfl

theorem reads_unique (hsupport : support.Lawful) (hgives : support.Gives w given layers)
    (hfits : support.Fits layers) {path other : Text}
    (hpath : support.Reads w.toPlace (support.caller given) path)
    (hother : support.Reads w.toPlace (support.caller given) other) : other = path := by
  obtain ⟨d, hd, t, ht, hexpand⟩ := hpath
  obtain ⟨d', hd', t', ht', hexpand'⟩ := hother
  obtain rfl := hd.unique hsupport hd'
  cases hgives with
  | intro =>
    rw [hd.parts_eq hsupport hfits, List.mem_singleton] at ht ht'
    obtain rfl := Datum.text.inj (ht.trans ht'.symm)
    exact Except.ok.inj (hexpand'.symm.trans hexpand)

section Combined

theorem eq_text_of_asKey {t : Text} (h : d.asKey = some (.text t)) : d = .text t := by
  cases d <;> simp only [Datum.asKey] at h <;> (try split at h) <;> simp_all

theorem Support.Combined.exists_of_lookup (h : support.Combined layers s) {name target : Text}
    (halias : s.aliases.lookup name = some target) :
    ∃ l ∈ layers, ∃ pairs, l .aliases = some (.mapping pairs) ∧
      ∃ e ∈ pairs, support.text e.1 = .ok name := by
  rw [h.aliases] at halias
  obtain ⟨d, hd, -⟩ := Option.bind_eq_some_iff.1 halias
  obtain ⟨key, hkey, -⟩ := Option.bind_eq_some_iff.1 hd
  obtain ⟨hmem, hspell⟩ := Support.mem_of_lastSpelling hkey
  obtain ⟨pairs, hpairs, hmem⟩ := exists_of_mem_keysFrom hmem
  obtain ⟨l, hl, hmap⟩ := Layer.mem_mapsOf.1 hpairs
  obtain ⟨e, he, rfl⟩ := List.mem_map.1 hmem
  exact ⟨l, hl, pairs, hmap, e, he, hspell⟩

theorem Support.Combined.lookup_of_texts (hsupport : support.Lawful)
    (h : support.Combined layers s) {name : Text}
    (htext : ∀ key ∈ keysFrom (mapsOf layers .aliases), support.text key = .ok name →
      key = .text name) :
    s.aliases.lookup name =
      (valueFrom (mapsOf layers .aliases) (.text name)).bind support.text? := by
  rw [h.aliases]
  congr 1
  cases hlast : support.lastSpelling name (keysFrom (mapsOf layers .aliases)) with
  | some key =>
    obtain ⟨hmem, hspell⟩ := Support.mem_of_lastSpelling hlast
    rw [htext key hmem hspell]
    rfl
  | none =>
    symm
    refine List.findSome?_eq_none_iff.2 fun pairs hpairs => ?_
    refine Datum.valueAt_eq_none_iff.2 fun e he hkey => ?_
    obtain ⟨key, hmem, e'⟩ := exists_mem_keysFrom hpairs (List.mem_map_of_mem (f := Prod.fst) he)
    refine Support.lastSpelling_eq_none_iff.1 hlast key hmem ?_
    rw [eq_text_of_asKey (e'.trans hkey)]
    exact hsupport.text_text name

end Combined

theorem aliases_of_ofVariables {lead : Text} {env : List (Text × Text)} {l : Layer}
    {m : List (Text × Json)} (h : (Layer.ofVariables lead env : Except (LoadFault P) _) = .ok l)
    (ht : fieldText? lead env .aliases = some (Json.object m).write)
    (hplain : (Json.object m).isPlain = true)
    (hmodest : (Json.object m).isModest = true) :
    l .aliases = some (.ofJson (.object m)) := by
  have hvalue := valueOf_of_ofVariables .aliases h
  rw [valueOf, ht] at hvalue
  simp only [Json.read?_write hplain, hmodest, if_true] at hvalue
  exact (Except.ok.inj hvalue).symm

/-- Settings are combined by rank. Files that no source names do not matter, and a success has read
    no two files. Every field is that of the highest source that gives it; an alias has the target
    of the last of the merged keys that spell it, which is that of the highest source with the alias
    where no other key spells it. Only what counts is judged. -/
theorem load_ranked {support : Support P E} (hsupport : support.Lawful) (w : World)
    (given : List (Datum × Datum)) (hgiven : (support.caller given).IsDistinct) :
    (∀ files, (∀ path, support.Reads w.toPlace (support.caller given) path →
        files.lookup path = w.files.lookup path) →
      load support { w with files } given = load support w given) ∧
    (∀ s, load support w given = .ok s →
      (∀ path other, support.Reads w.toPlace (support.caller given) path →
        support.Reads w.toPlace (support.caller given) other → other = path) ∧
      ∃ layers, support.Gives w given layers ∧ support.Combined layers s ∧
        (∀ name target, s.aliases.lookup name = some target →
          ∃ l ∈ layers, ∃ pairs, l .aliases = some (.mapping pairs) ∧
            ∃ e ∈ pairs, support.text e.1 = .ok name) ∧
        ∀ name, (∀ key ∈ keysFrom (mapsOf layers .aliases), support.text key = .ok name →
            key = .text name) →
          s.aliases.lookup name =
            (valueFrom (mapsOf layers .aliases) (.text name)).bind support.text?) ∧
    ((∃ s, load support w given = .ok s) ↔
      ∃ layers, support.Gives w given layers ∧ support.Fits layers) := by
  refine ⟨fun files => load_files hsupport, fun s hs => ?_, exists_load_iff hsupport hgiven⟩
  obtain ⟨high, lower, hgives, hlayer⟩ := (load_eq_ok_iff hsupport).1 hs
  have hdistinct := distinct_of_gives hsupport hgiven hgives
  have hfits := (exists_ofLayer_foldl_iff hsupport hdistinct).1 ⟨s, hlayer⟩
  have hcombined := combined_of_ofLayer hsupport hdistinct hlayer
  exact ⟨fun path other => reads_unique hsupport hgives hfits, _, hgives, hcombined,
    fun name target => hcombined.exists_of_lookup, fun name => hcombined.lookup_of_texts hsupport⟩

/-- The environment gives a target for `A`, but bytes in the file below it spell the same alias. All
    else that settings cannot hold is replaced, and a file beside it is malformed. -/
theorem load_ranked_spelled :
    let support := standard fun program p =>
      .ok (joinPath ((p.environment.lookup "XDG_CONFIG_HOME".toList).getD []) program)
    let w : World :=
      { environment := [("XDG_CONFIG_HOME".toList, "/c".toList),
          ("DOCBLOCK_MCP_NAMESPACE".toList, "App".toList),
          ("DOCBLOCK_MCP_ALIASES".toList, "\x7b\"A\": \"C\"\x7d".toList)]
        files := [("/c/docblock-mcp/config.yaml".toList, ("log_level: info\nnamespace: [1]\n" ++
          "aliases: \x7bA: x, !!binary QQ==: y, B: 2\x7d").toList)] }
    let given : List (Datum × Datum) :=
      [(.text "aliases".toList, .mapping [(.text ['B'], .text ['z'])])]
    let s : Settings :=
      { ns := "App".toList, aliases := [(['A'], ['y']), (['B'], ['z'])], logLevel := "INFO".toList }
    support.Lawful ∧ (support.caller given).IsDistinct ∧
      load support { w with files := ("/other.yaml".toList, ['[']) :: w.files } given = .ok s ∧
      ∃ layers, support.Gives w given layers ∧ support.Combined layers s ∧
        valueFrom (mapsOf layers .aliases) (.text ['A']) = some (.text ['C']) ∧
        s.aliases.lookup ['A'] = some ['y'] := by
  intro support w given s
  have hsupport : support.Lawful := standard_lawful _
  have hgiven : (support.caller given).IsDistinct := by
    refine distinct_ofPairs fun e he => ?_
    obtain rfl := List.mem_singleton.1 he
    exact .mapping (List.nodup_singleton _) (by simp) (by simp)
  have hload : load support w given = .ok s := eq_ok_of_toOption (by decide +kernel)
  obtain ⟨hfiles, hok, -⟩ := load_ranked hsupport w given hgiven
  obtain ⟨-, layers, hgives, hcombined, -⟩ := hok s hload
  refine ⟨hsupport, hgiven, ?_, layers, hgives, hcombined, ?_, rfl⟩
  · rw [hfiles, hload]
    have hcaller : (support.caller given .configFile).isNone = true := by decide +kernel
    have hnames : ∀ v ∈ w.environment,
        v.1.lower ≠ (variableLead ++ Field.configFile.name).lower := by decide +kernel
    rintro path ⟨d, hd, t, ht, hpath⟩
    cases hd with
    | caller h => simp [Option.isNone_iff_eq_none.1 hcaller] at h
    | environment _ _ hv hname => exact absurd hname (hnames _ hv)
    | standard _ _ _ hfolder =>
      cases hfolder
      obtain rfl := Datum.text.inj (List.mem_singleton.1 ht)
      have hexpand : (w.expand (joinPath (joinPath "/c".toList programName) configName)).toOption =
          some "/c/docblock-mcp/config.yaml".toList := by decide +kernel
      obtain rfl := Except.ok.inj (hpath.symm.trans (eq_ok_of_toOption hexpand))
      decide +kernel
  · obtain @⟨_, _, environment, file, _, henvironment, _, _⟩ := hgives
    have haliases : environment .aliases = some (.mapping [(.text ['A'], .text ['C'])]) :=
      aliases_of_ofVariables (m := [(['A'], .text ['C'])]) henvironment
        (by decide +kernel) (by decide +kernel) (by decide +kernel)
    have htargets : support.caller given .aliases =
        some (.mapping [(.text ['B'], .text ['z'])]) := rfl
    rw [Layer.mapsOf_cons, htargets, Layer.mapsOf_cons, haliases]
    rfl

end Load

end DocTag.Settings
