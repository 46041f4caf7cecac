import DocTag.Proofs.Tag.Parameter
import DocTag.Proofs.Ty.Read
import DocTag.Proofs.Ty.WellFormed

namespace DocTag

open Text

theorem Ty.Opening.not_variableLead {t : Text} (h : Ty.Opening t) (hhead : t.head? ≠ some '$') :
    ∀ lead ∈ Parameter.variableLeads, ¬ lead <+: t := by
  cases h with
  | receiver => exact absurd rfl hhead
  | @other c rest hc =>
    apply Parameter.not_variableLead
    intro hmem
    have table : ∀ d ∈ ['$', '&', '.'], ¬ (d = '\\' ∨ d = '?' ∨ d = '(' ∨ d.isAlpha = true) := by
      decide
    exact table c hmem hc

namespace Parameter

structure Head where
  (word gap : Text)
  word_ne_nil : word ≠ []
  word_solid : ∀ c ∈ word, isBlank c = false
  word_lead : ∀ lead ∈ variableLeads, ¬ lead <+: word
  gap_ne_nil : gap ≠ []
  gap_blank : gap.Blank

def Head.text (h : Head) : Text := h.word ++ h.gap

structure Remark where
  (gap description : Text)
  gap_ne_nil : gap ≠ []
  gap_blank : gap.Blank
  description_ne_nil : description ≠ []
  description_dedent : description.dedent = description

namespace Remark

def text (r : Remark) : Text := r.gap ++ r.description

theorem dedent_text (r : Remark) : r.text.dedent = r.description :=
  dedent_append_of_blank r.description_dedent r.description_ne_nil r.gap_blank

theorem text_ne_nil (r : Remark) : r.text ≠ [] := by
  rw [text]
  simp [r.gap_ne_nil]

theorem head?_text (r : Remark) : ∀ c ∈ r.text.head?, isWord c = false := by
  intro c hc
  have hblank := r.gap_blank.head?_append r.gap_ne_nil r.description c hc
  cases hword : isWord c with
  | false => rfl
  | true =>
    rw [not_isBlank_of_isWord hword] at hblank
    cases hblank

theorem getLast?_text (r : Remark) : ∀ c ∈ r.text.getLast?, isBlank c = false := by
  rw [text, List.getLast?_append_of_ne_nil _ r.description_ne_nil, ← r.description_dedent]
  exact (tight_dedent r.description).last

theorem exists_of_dedent_eq {d : Text} (h : d.dedent = d) : ∃ remark : Option Remark,
    remark.elim [] text = trailing (some d) ∧ remark.elim [] description = d := by
  cases d with
  | nil => exact ⟨none, rfl, rfl⟩
  | cons c d =>
    exact ⟨some { gap := [' '], description := c :: d, gap_ne_nil := by simp
                  gap_blank := by decide, description_ne_nil := by simp
                  description_dedent := h }, rfl, rfl⟩

end Remark

/-- The body of a `param` tag as it may be written. -/
structure Body where
  before : Text
  -- The blanks behind an ellipsis that comes first, if one does.
  leading : Option Text
  head : Option Head
  (byReference variadic : Bool)
  name : Text
  remark : Option Remark
  after : Text
  before_blank : before.Blank
  leading_blank : ∀ gap ∈ leading, gap.Blank
  name_ne_nil : name ≠ []
  name_word : ∀ c ∈ name, isWord c = true
  after_blank : after.Blank

namespace Body

def rest (b : Body) : Text := b.remark.elim [] Remark.text

def description (b : Body) : Text := b.remark.elim [] Remark.description

def tail (b : Body) : Text := marks b.byReference b.variadic ++ '$' :: (b.name ++ b.rest)

def core (b : Body) : Text := b.head.elim [] Head.text ++ b.tail

def text (b : Body) : Text :=
  b.before ++ (b.leading.elim [] (ellipsis ++ ·) ++ b.core) ++ b.after

def Resolves (b : Body) (s : Scope) (type : Ty) : Prop :=
  match b.head with
  | none => type = .mixed
  | some h => Ty.resolve s h.word = .ok type

def parameter (b : Body) (type : Ty) : Parameter where
  name := b.name
  type := type
  byReference := b.byReference
  variadic := b.leading.isSome || b.variadic
  description := some b.description

theorem tail_ne_nil (b : Body) : b.tail ≠ [] := by simp [tail]

theorem core_ne_nil (b : Body) : b.core ≠ [] := by simp [core, b.tail_ne_nil]

theorem head?_rest (b : Body) : ∀ c ∈ b.rest.head?, isWord c = false := by
  unfold rest
  cases b.remark with
  | none => simp
  | some r => exact r.head?_text

theorem dedent_rest (b : Body) : b.rest.dedent = b.description := by
  unfold rest description
  cases b.remark with
  | none => rfl
  | some r => exact r.dedent_text

theorem tight_tail (b : Body) : b.tail.Tight := by
  refine ⟨head?_marks _ _ _, ?_⟩
  rw [tail, List.getLast?_append_of_ne_nil _ (by simp),
    List.getLast?_cons_of_ne_nil (by simp [b.name_ne_nil]), rest]
  cases b.remark with
  | none =>
    intro c hc
    rw [Option.elim_none, List.append_nil] at hc
    exact not_isBlank_of_isWord (b.name_word c (List.mem_of_getLast? hc))
  | some r =>
    rw [Option.elim_some, List.getLast?_append_of_ne_nil _ r.text_ne_nil]
    exact r.getLast?_text

theorem tight_core (b : Body) : b.core.Tight := by
  refine ⟨?_, ?_⟩
  · unfold core
    cases b.head with
    | none => exact b.tight_tail.head
    | some h =>
      intro c hc
      rw [Option.elim_some, Head.text, List.append_assoc,
        List.head?_append_of_ne_nil _ h.word_ne_nil] at hc
      exact h.word_solid c (List.mem_of_head? hc)
  · rw [core, List.getLast?_append_of_ne_nil _ b.tail_ne_nil]
    exact b.tight_tail.last

theorem readMarked_core (b : Body) {s : Scope} {type : Ty} (h : b.Resolves s type)
    (leading : Bool) : readMarked s leading b.core =
      .found { b.parameter type with variadic := leading || b.variadic } := by
  simp only [parameter, ← b.dedent_rest]
  unfold core tail
  unfold Resolves at h
  split at h
  · rename_i hhead
    rw [hhead, h]
    exact readMarked_untyped leading b.name_ne_nil b.name_word b.head?_rest
  · rename_i head hhead
    rw [hhead, Option.elim_some, Head.text, List.append_assoc]
    exact readMarked_typed leading head.word_ne_nil head.word_solid head.word_lead head.gap_ne_nil
      head.gap_blank b.name_ne_nil b.name_word b.head?_rest h

theorem ellipsis_lead (b : Body) (h : ellipsis <+: b.core) :
    b.head = none ∧ b.byReference = false ∧ b.variadic = true := by
  -- An ellipsis in front of a variable that nothing else precedes comes first too.
  unfold core at h
  cases hhead : b.head with
  | none =>
    rw [hhead] at h
    unfold tail at h
    cases href : b.byReference <;> cases hvar : b.variadic <;>
      simp [href, hvar, marks, ellipsis] at h ⊢
  | some head =>
    rw [hhead, Option.elim_some, Head.text, List.append_assoc] at h
    exact absurd (prefix_of_prefix_append (by decide)
      (head.gap_blank.head?_append head.gap_ne_nil _) h) (head.word_lead ellipsis (by decide))

theorem read_core (b : Body) {s : Scope} {type : Ty} (h : b.Resolves s type) :
    read s b.core = .found { b.parameter type with variadic := b.variadic } := by
  by_cases hlead : ellipsis <+: b.core
  · obtain ⟨hhead, href, hvar⟩ := b.ellipsis_lead hlead
    -- What follows the ellipsis is the body that has no mark there.
    let plain : Body := { b with variadic := false }
    have hcore : b.core = ellipsis ++ ([] ++ plain.core) := by
      simp [core, tail, rest, plain, hhead, href, hvar, marks]
    have hplain : plain.Resolves s type := h
    rw [hcore, read_ellipsis blank_nil plain.tight_core plain.core_ne_nil,
      plain.readMarked_core hplain, hvar]
    rfl
  · rw [read_of_no_ellipsis b.tight_core hlead, b.readMarked_core h]
    rfl

theorem read_text (b : Body) {s : Scope} {type : Ty} (h : b.Resolves s type) :
    read s b.text = .found (b.parameter type) := by
  unfold text
  cases hleading : b.leading with
  | none =>
    rw [Option.elim_none, List.nil_append, read_append b.before_blank b.tight_core b.after_blank,
      b.read_core h]
    simp [parameter, hleading]
  | some gap =>
    have htight := tight_ellipsis gap b.tight_core b.core_ne_nil
    rw [Option.elim_some, List.append_assoc ellipsis,
      read_append b.before_blank htight b.after_blank,
      read_ellipsis (b.leading_blank gap hleading) b.tight_core b.core_ne_nil, b.readMarked_core h]
    simp [parameter, hleading]

theorem text_ne_nil (b : Body) : b.text ≠ [] := by
  simp [text, b.core_ne_nil]

end Body

/-- A parameter whose written form can be taken apart again, with a type that is read from it and a
    description in the form that it keeps. -/
structure Rereadable (s : Scope) (p : Parameter) : Prop where
  name_ne_nil : p.name ≠ []
  name_word : ∀ c ∈ p.name, isWord c = true
  type_solid : ∀ c ∈ p.type.render, isBlank c = false
  type_head : p.type.render.head? ≠ some '$'
  type_resolve : Ty.resolve s p.type.render = .ok p.type
  description : ∃ d, p.description = some d ∧ d.dedent = d

theorem Rereadable.exists_body {s : Scope} {p : Parameter} (h : p.Rereadable s) :
    ∃ b : Body, b.text = p.render ∧ b.Resolves s p.type ∧ b.parameter p.type = p := by
  obtain ⟨d, hd, hdedent⟩ := h.description
  obtain ⟨remark, htext, hdescription⟩ := Remark.exists_of_dedent_eq hdedent
  have hopening := (Ty.wellFormed_of_resolve h.type_resolve).opening
  let head : Head :=
    { word := p.type.render, gap := [' '], word_ne_nil := hopening.ne_nil
      word_solid := h.type_solid, word_lead := hopening.not_variableLead h.type_head
      gap_ne_nil := by simp, gap_blank := by decide }
  let b : Body :=
    { before := [], leading := none, head := some head, byReference := p.byReference
      variadic := p.variadic, name := p.name, remark, after := []
      before_blank := blank_nil, leading_blank := by simp, name_ne_nil := h.name_ne_nil
      name_word := h.name_word, after_blank := blank_nil }
  refine ⟨b, ?_, h.type_resolve, ?_⟩
  · rw [render_eq, hd, ← htext]
    simp [b, head, Body.text, Body.core, Body.tail, Body.rest, Head.text]
  · have hfields : (b.parameter p.type).description = p.description := by
      rw [hd, ← hdescription]
      rfl
    cases p
    simpa [Body.parameter, b] using hfields

/-- A parameter is recognised in every layout of its parts, and so from its written form. -/
theorem recognise_body (s : Scope) :
    (∀ (b : Body) (type : Ty), b.Resolves s type →
      recognise {} s (some b.text) = .found
        { name := b.name
          type
          byReference := b.byReference
          variadic := b.leading.isSome || b.variadic
          description := some b.description }) ∧
    ∀ p : Parameter, p.Rereadable s → recognise {} s (some p.render) = .found p := by
  have hbody : ∀ (b : Body) (type : Ty), b.Resolves s type →
      recognise {} s (some b.text) = .found (b.parameter type) := by
    intro b type h
    rw [recognise, Equipment.reading_text b.text_ne_nil]
    exact b.read_text h
  refine ⟨hbody, ?_⟩
  intro p hp
  obtain ⟨b, htext, hresolves, hparameter⟩ := hp.exists_body
  rw [← htext, hbody b p.type hresolves, hparameter]

theorem recognise_body_lines :
    let s : Scope := ⟨"App".toList, []⟩
    let p : Parameter :=
      { name := "items".toList
        type := .compound [.nullable (.array (.object "\\App\\User".toList)), .keyword .null]
        byReference := true
        variadic := true
        description := some "The items:\n  - one\nor none".toList }
    recognise {} s (some
        "\n ... \n?User[]|NULL\t&...$items\n\n  The items:\n  - one\nor none \n".toList) =
          .found p ∧
      recognise {} s (some p.render) = .found p := by
  intro s p
  let head : Head :=
    { word := "?User[]|NULL".toList, gap := ['\t'], word_ne_nil := by decide
      word_solid := by decide, word_lead := by decide, gap_ne_nil := by decide
      gap_blank := by decide }
  let remark : Remark :=
    { gap := "\n\n  ".toList, description := "The items:\n  - one\nor none".toList
      gap_ne_nil := by decide, gap_blank := by decide, description_ne_nil := by decide
      description_dedent := by decide +kernel }
  let b : Body :=
    { before := "\n ".toList, leading := some " \n".toList, head := some head
      byReference := true, variadic := true, name := "items".toList, remark := some remark
      after := " \n".toList, before_blank := by decide, leading_blank := by simp; decide
      name_ne_nil := by decide, name_word := by decide, after_blank := by decide }
  have htype : b.Resolves s p.type :=
    Ty.resolve_eq_ok.2 ⟨.compound [.nullable (.array (.object "User".toList)), .keyword .null],
      by decide +kernel, by decide +kernel⟩
  have hp : p.Rereadable s :=
    { name_ne_nil := by decide, name_word := by decide, type_solid := by decide +kernel
      type_head := by decide +kernel
      type_resolve := Ty.resolve_eq_ok.2 ⟨p.type, by decide +kernel, by decide +kernel⟩
      description := ⟨_, rfl, by decide +kernel⟩ }
  obtain ⟨hbody, hrender⟩ := recognise_body s
  have htext : b.text =
      "\n ... \n?User[]|NULL\t&...$items\n\n  The items:\n  - one\nor none \n".toList := by
    decide +kernel
  rw [← htext]
  exact ⟨hbody b p.type htype, hrender p hp⟩

end Parameter

end DocTag
