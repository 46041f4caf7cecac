import DocTag.Proofs.Registry.Line
import DocTag.Proofs.Tag.Draft

namespace DocTag

open Text Reading

def Tag.mask (t : Tag) : Tag := t.mapTypes Ty.mask

def Tag.classes (t : Tag) : List Text := t.types.flatMap Ty.classes

theorem Tag.mask_qualify (s : Scope) (t : Tag) : (t.mapTypes (Ty.qualify s)).mask = t.mask := by
  have hmask : Ty.mask ∘ Ty.qualify s = Ty.mask := by
    funext u
    exact Ty.mask_qualify s u
  rw [mask, mapTypes_mapTypes, hmask, mask]

theorem Tag.classes_qualify (s : Scope) (t : Tag) :
    (t.mapTypes (Ty.qualify s)).classes = t.classes.map s.qualify := by
  simp [classes, List.flatMap_map, List.map_flatMap]

theorem TagLine.Of.infix_body {line : Text} {l : TagLine} (h : l.Of line) : l.body <:+: line := by
  obtain ⟨-, -, mark, rest, -, htrim, -, hbody⟩ := h
  rw [hbody]
  refine (isInfix_trim rest).trans (List.IsInfix.trans ?_ (isInfix_trim line))
  rw [htrim, ← List.append_assoc]
  exact (List.suffix_append _ rest).isInfix

namespace Scope

theorem qualify_full {name : Text} (h : name.head? = some '\\') (s : Scope) :
    s.qualify name = name := by
  obtain ⟨rest, rfl⟩ := List.head?_eq_some_iff.1 h
  rfl

end Scope

namespace Registry

theorem drafted_reading (valid : Text → Bool) (l : TagLine) :
    Drafted Tag.mapTypes Tag.types l.body fun s => (builtin valid).reading s l := by
  unfold reading
  cases hfind : (builtin valid).find? l.name with
  | none => exact drafted_missed _ _
  | some f =>
    obtain ⟨k, -, rfl⟩ := find?_builtin_iff.1 hfind
    cases l.body with
    | nil => exact drafted_missed _ _
    | cons c rest => exact k.drafted_recogniser valid (by simp)

theorem exists_draft (valid : Text → Bool) (line : Text) : ∃ draft : Except Fault Tag,
    (∀ tag, draft = .ok tag → ∀ u ∈ tag.types, u.StandsIn line) ∧
      ∀ s, (builtin valid).create s line = draft.map (Tag.mapTypes (Ty.qualify s)) := by
  unfold create
  cases hline : TagLine.ofText? line with
  | none => exact ⟨.error (.tagLine line), by simp, fun _ => rfl⟩
  | some l =>
    have hbody := (TagLine.ofText?_eq_some_iff.1 hline).infix_body
    obtain ⟨draft, hstands, hread⟩ := (drafted_reading valid l).mono hbody
    simp only [hread]
    cases draft with
    | missed why =>
      refine ⟨.ok (.generic l.name (some l.body.dedent)), ?_, fun _ => rfl⟩
      intro tag htag u hu
      obtain rfl := Except.ok.inj htag
      cases hu
    | refused why => exact ⟨.error why, by simp, fun _ => rfl⟩
    | found tag =>
      refine ⟨.ok tag, ?_, fun _ => rfl⟩
      intro tag' htag
      obtain rfl := Except.ok.inj htag
      exact hstands tag rfl

/-- In every scope a line is refused for the same reason, or makes tags that differ in nothing but
    the names of classes. These are the names on the line, each qualified in the scope, so those
    that are written in full are the same in every scope. -/
theorem create_scope (valid : Text → Bool) (line : Text) :
    (∀ s₁ s₂, ((builtin valid).create s₁ line).map Tag.mask =
      ((builtin valid).create s₂ line).map Tag.mask) ∧
    ∃ written : List Text, (∀ name ∈ written, name <:+: line) ∧
      ∀ s tag, (builtin valid).create s line = .ok tag →
        List.Forall₂ (fun name full => full = s.qualify name ∧
          (name.head? = some '\\' → full = name)) written tag.classes := by
  obtain ⟨draft, hstands, hcreate⟩ := exists_draft valid line
  cases draft with
  | error why =>
    refine ⟨fun s₁ s₂ => by rw [hcreate s₁, hcreate s₂]; rfl, [], by simp, ?_⟩
    intro s tag htag
    rw [hcreate s] at htag
    cases htag
  | ok draft =>
    refine ⟨?_, draft.classes, ?_, ?_⟩
    · intro s₁ s₂
      rw [hcreate s₁, hcreate s₂]
      simp only [Except.map, Tag.mask_qualify]
    · intro name hname
      obtain ⟨u, hu, hname⟩ := List.mem_flatMap.1 hname
      exact hstands draft rfl u hu name hname
    · intro s tag htag
      rw [hcreate s] at htag
      obtain rfl := Except.ok.inj htag
      rw [Tag.classes_qualify, List.forall₂_map_right_iff, List.forall₂_same]
      exact fun name _ => ⟨rfl, fun hfull => s.qualify_full hfull⟩

theorem create_scope_find :
    let r := builtin fun _ => true
    let line := "@method User[] find(?\\Acme\\Query $query) Finds.".toList
    let app : Scope := ⟨"App".toList, []⟩
    let found (user : Text) : Tag := .method
      { name := "find".toList
        returns := .array (.object user)
        description := some "Finds.".toList
        parameters := [⟨"query".toList, .nullable (.object "\\Acme\\Query".toList), false, false,
          some []⟩] }
    let tag := found "\\App\\User".toList
    let tag' := found "\\User".toList
    (r.create app line = .ok tag ∧ r.create {} line = .ok tag') ∧ tag.mask = tag'.mask ∧
      ∃ written : List Text, (∀ name ∈ written, name <:+: line) ∧
        List.Forall₂ (fun name full => full = app.qualify name ∧
          (name.head? = some '\\' → full = name)) written tag.classes ∧
        List.Forall₂ (fun name full => full = Scope.qualify {} name ∧
          (name.head? = some '\\' → full = name)) written tag'.classes := by
  intro r line app found tag tag'
  have htag : r.create app line = .ok tag := by decide +kernel
  have htag' : r.create {} line = .ok tag' := by decide +kernel
  obtain ⟨hmask, written, hwritten, hclasses⟩ := create_scope (fun _ => true) line
  refine ⟨⟨htag, htag'⟩, ?_, written, hwritten, hclasses app tag htag, hclasses {} tag' htag'⟩
  have hsame : (r.create app line).map Tag.mask = (r.create {} line).map Tag.mask := hmask app {}
  rw [htag, htag'] at hsame
  exact Except.ok.inj hsame

end Registry

end DocTag
