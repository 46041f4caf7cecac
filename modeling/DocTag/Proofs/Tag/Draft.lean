import DocTag.Proofs.Tag.Reading
import DocTag.Proofs.Tag.Signature
import DocTag.Proofs.Ty.Classes
import DocTag.Registry

namespace DocTag

open Text

def Ty.StandsIn (t : Text) (u : Ty) : Prop := ∀ name ∈ u.classes, name <:+: t

theorem Ty.StandsIn.mono {t t' : Text} {u : Ty} (h : u.StandsIn t) (ht : t <:+: t') :
    u.StandsIn t' := fun name hname => (h name hname).trans ht

theorem Ty.standsIn_of_read? {raw : Text} {u : Ty} (h : read? raw = some u) : u.StandsIn raw :=
  infix_of_mem_classes h

namespace Reading

variable {α β : Type} {map : (Ty → Ty) → α → α} {types : α → List Ty}

/-- What is read of the text `t` in a scope is a draft, which is the same in every scope, with its
    types qualified. -/
def Drafted (map : (Ty → Ty) → α → α) (types : α → List Ty) (t : Text)
    (read : Scope → Reading α) : Prop :=
  ∃ draft : Reading α, (∀ a, draft = .found a → ∀ u ∈ types a, u.StandsIn t) ∧
    ∀ s, read s = draft.map (map (Ty.qualify s))

theorem Drafted.mono {t t' : Text} {read : Scope → Reading α} (h : Drafted map types t read)
    (ht : t <:+: t') : Drafted map types t' read := by
  obtain ⟨draft, hstands, hread⟩ := h
  exact ⟨draft, fun a ha u hu => (hstands a ha u hu).mono ht, hread⟩

theorem drafted_missed (t : Text) (why : Miss) :
    Drafted map types t fun _ => .missed why := ⟨.missed why, by simp, fun _ => rfl⟩

theorem drafted_refused (t : Text) (why : Fault) :
    Drafted map types t fun _ => .refused why := ⟨.refused why, by simp, fun _ => rfl⟩

theorem Drafted.map_scope {map' : (Ty → Ty) → β → β} {types' : β → List Ty} {t : Text}
    {read : Scope → Reading α} (h : Drafted map types t read) (g : α → β) (g' : Scope → α → β)
    (hmap : ∀ s a, map' (Ty.qualify s) (g a) = g' s (map (Ty.qualify s) a))
    (htypes : ∀ a, (∀ u ∈ types a, u.StandsIn t) → ∀ u ∈ types' (g a), u.StandsIn t) :
    Drafted map' types' t fun s => (read s).map (g' s) := by
  obtain ⟨draft, hstands, hread⟩ := h
  refine ⟨draft.map g, ?_, ?_⟩
  · intro b hb
    cases draft with
    | found a =>
      obtain rfl := Reading.found.inj hb
      exact htypes a (hstands a rfl)
    | missed | refused => cases hb
  · intro s
    simp only [hread s]
    cases draft with
    | found a => simp only [map_found, hmap]
    | missed | refused => rfl

theorem Drafted.rel {t : Text} {read : Scope → Reading α} (h : Drafted map types t read)
    (s s' : Scope) : Rel (fun _ _ => True) (read s) (read s') := by
  obtain ⟨draft, -, hread⟩ := h
  rw [hread s, hread s']
  cases draft with
  | found => exact .found trivial
  | missed why => exact .missed why why
  | refused => exact .refused rfl

end Reading

open Reading

namespace Parameter

def mapTypes (f : Ty → Ty) (p : Parameter) : Parameter := { p with type := f p.type }

def draftType (t : Text) : Option (Ty × Text) :=
  let word := t.takeWhile (!isBlank ·)
  if startsVariable word then some (.mixed, t)
  else (Ty.read? word).map fun u => (u, Text.trimStart (t.dropWhile (!isBlank ·)))

def ofDraft (s : Scope) (leading : Bool) : Option (Ty × Text) → Reading Parameter
  | none => .refused .emptyType
  | some (u, rest) =>
    match Variable.read? rest with
    | none => .missed (.noVariable rest)
    | some v =>
      .found
        { name := v.name
          type := u.qualify s
          byReference := v.byReference
          variadic := leading || v.variadic
          description := some v.rest.dedent }

theorem readType_eq (s : Scope) (t : Text) : readType s t =
    match draftType t with
    | some (u, rest) => .ok (u.qualify s, rest)
    | none => .error .emptyType := by
  unfold readType draftType Ty.resolve
  simp only
  split
  · rfl
  · cases Ty.read? (t.takeWhile (!isBlank ·)) <;> rfl

theorem readMarked_of_ne_nil (s : Scope) (leading : Bool) {t : Text} (h : t ≠ []) :
    readMarked s leading t = ofDraft s leading (draftType t) := by
  unfold readMarked
  split
  · contradiction
  · rw [readType_eq]
    cases draftType t <;> rfl

theorem standsIn_of_draftType {t rest : Text} {u : Ty} (h : draftType t = some (u, rest)) :
    u.StandsIn t := by
  unfold draftType at h
  simp only at h
  split at h
  · obtain ⟨rfl, -⟩ := Prod.mk.inj (Option.some.inj h)
    intro name hname
    cases hname
  · obtain ⟨u, hread, e⟩ := Option.map_eq_some_iff.1 h
    obtain ⟨rfl, -⟩ := Prod.mk.inj e
    exact (Ty.standsIn_of_read? hread).mono (List.takeWhile_prefix _).isInfix

theorem drafted_readMarked (leading : Bool) (t : Text) :
    Drafted mapTypes (fun p => [p.type]) t fun s => readMarked s leading t := by
  by_cases hne : t = []
  · subst hne
    exact drafted_missed _ _
  · simp only [readMarked_of_ne_nil _ leading hne]
    cases htype : draftType t with
    | none => exact drafted_refused _ _
    | some x =>
      obtain ⟨u, rest⟩ := x
      cases hvariable : Variable.read? rest with
      | none =>
        simp only [ofDraft, hvariable]
        exact drafted_missed _ _
      | some v =>
        simp only [ofDraft, hvariable]
        refine ⟨.found
          { name := v.name
            type := u
            byReference := v.byReference
            variadic := leading || v.variadic
            description := some v.rest.dedent }, ?_, fun _ => rfl⟩
        intro p hp u' hu'
        obtain rfl := Reading.found.inj hp
        obtain rfl := List.mem_singleton.1 hu'
        exact standsIn_of_draftType htype

theorem drafted_read (t : Text) :
    Drafted mapTypes (fun p => [p.type]) t fun s => read s t := by
  unfold read
  cases hlead : ellipsis.isPrefixOf? t.trim with
  | none => exact (drafted_readMarked false t.trim).mono (isInfix_trim t)
  | some rest =>
    refine (drafted_readMarked true (trimStart rest)).mono (List.IsInfix.trans ?_ (isInfix_trim t))
    rw [← List.isPrefixOf?_eq_some_iff_append_eq.1 hlead]
    exact (List.dropWhile_suffix _).isInfix.trans (List.suffix_append _ _).isInfix

end Parameter

namespace Method

def mapTypes (f : Ty → Ty) (m : Method) : Method :=
  { m with returns := f m.returns, parameters := m.parameters.map (Parameter.mapTypes f) }

def types (m : Method) : List Ty := m.returns :: m.parameters.map Parameter.type

theorem drafted_readArguments (method t : Text) {fragments : List Text}
    (h : ∀ fragment ∈ fragments, fragment <:+: t) :
    Drafted (fun f => List.map (Parameter.mapTypes f)) (List.map Parameter.type) t
      fun s => readArguments s method fragments := by
  induction fragments with
  | nil => exact ⟨.found [], by simp, fun _ => rfl⟩
  | cons fragment rest ih =>
    obtain ⟨draft, hstands, hread⟩ := (Parameter.drafted_read fragment).mono (h fragment (by simp))
    obtain ⟨drafts, hrest, hreads⟩ := ih fun u hu => h u (List.mem_cons_of_mem _ hu)
    simp only [readArguments, hread, hreads]
    cases draft with
    | missed why => exact drafted_missed _ _
    | refused why => exact drafted_refused _ _
    | found p =>
      have hrest : Drafted (fun f => List.map (Parameter.mapTypes f)) (List.map Parameter.type) t
          fun s => drafts.map (List.map (Parameter.mapTypes (Ty.qualify s))) :=
        ⟨drafts, hrest, fun _ => rfl⟩
      refine hrest.map_scope (p :: ·) (fun s => (p.mapTypes (Ty.qualify s) :: ·))
        (fun _ _ => rfl) ?_
      intro ps hps
      exact List.forall_mem_cons.2 ⟨hstands p rfl p.type (by simp), hps⟩

theorem infix_of_mem_arguments {t fragment : Text} (h : fragment ∈ t.arguments) :
    fragment <:+: t := by
  unfold Text.arguments at h
  split at h
  · cases h
  · obtain ⟨piece, hpiece, rfl⟩ := List.mem_map.1 h
    refine (isInfix_trim piece).trans ?_
    have hjoin : piece <:+: [','].intercalate (t.splitOn ',') := infix_intercalate_of_mem hpiece
    rwa [List.intercalate_splitOn] at hjoin

theorem drafted_read (t : Text) : Drafted mapTypes types t fun s => read s t := by
  cases hbody : Signature.ofBody? t with
  | none =>
    simp only [read_of_none hbody]
    exact drafted_missed _ _
  | some sig =>
    obtain ⟨hreturns, harguments⟩ := (Signature.ofBody?_eq_some_iff.1 hbody).isInfix
    simp only [read_of_some hbody, Ty.resolve]
    cases hread : Ty.read? sig.typeText with
    | none => exact drafted_refused _ _
    | some u =>
      refine (drafted_readArguments sig.name t fun fragment hfragment =>
        (infix_of_mem_arguments hfragment).trans harguments).map_scope
          (sig.method (Signature.name_ne_nil_of_ofBody? hbody) u)
          (fun s => sig.method (Signature.name_ne_nil_of_ofBody? hbody) (u.qualify s))
          (fun _ _ => rfl) ?_
      intro ps hps
      refine List.forall_mem_cons.2 ⟨?_, hps⟩
      unfold Signature.typeText at hread
      split at hread
      · have hvoid : Ty.read? "void".toList = some (.keyword .void) := by decide +kernel
        obtain rfl := Option.some.inj (hvoid.symm.trans hread)
        intro name hname
        cases hname
      · exact (Ty.standsIn_of_read? hread).mono hreturns

end Method

namespace Tag

def mapTypes (f : Ty → Ty) : Tag → Tag
  | method m => method (m.mapTypes f)
  | param p => param (p.mapTypes f)
  | author a => author a
  | generic name description => generic name description

def types : Tag → List Ty
  | method m => m.types
  | param p => [p.type]
  | author _ | generic _ _ => []

@[simp] theorem types_mapTypes (f : Ty → Ty) (t : Tag) : (t.mapTypes f).types = t.types.map f := by
  cases t <;> simp [mapTypes, types, Method.mapTypes, Method.types, Parameter.mapTypes]

theorem mapTypes_mapTypes (f g : Ty → Ty) (t : Tag) :
    (t.mapTypes f).mapTypes g = t.mapTypes (g ∘ f) := by
  cases t <;> simp [mapTypes, Method.mapTypes, Parameter.mapTypes]

end Tag

theorem Kind.drafted_recogniser (valid : Text → Bool) (k : Kind) {body : Text} (h : body ≠ []) :
    Drafted Tag.mapTypes Tag.types body fun s => k.recogniser valid s body := by
  obtain ⟨c, t, rfl⟩ := List.exists_cons_of_ne_nil h
  cases k with
  | method =>
    exact (Method.drafted_read (c :: t)).map_scope Tag.method
      (fun _ => Tag.method) (fun _ _ => rfl)
      fun _ h => h
  | param =>
    exact (Parameter.drafted_read (c :: t)).map_scope Tag.param
      (fun _ => Tag.param) (fun _ _ => rfl)
      fun _ h => h
  | author =>
    refine ⟨(Author.read valid (c :: t)).map .author, ?_, fun s => ?_⟩
    · intro tag htag
      cases hread : Author.read valid (c :: t) with
      | found a =>
        rw [hread] at htag
        obtain rfl := Reading.found.inj htag
        intro u hu
        cases hu
      | missed | refused =>
        rw [hread] at htag
        cases htag
    · simp only [Kind.recogniser]
      cases Author.read valid (c :: t) <;> rfl

end DocTag
