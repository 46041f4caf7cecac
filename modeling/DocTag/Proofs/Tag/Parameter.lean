import DocTag.Proofs.Character
import DocTag.Proofs.Dedent
import DocTag.Tag.Parameter

namespace DocTag

namespace Text

theorem isPrefixOf?_eq_none {lead t : Text} : lead.isPrefixOf? t = none ↔ ¬ lead <+: t := by
  rw [← Option.not_isSome_iff_eq_none, List.isSome_isPrefixOf?_eq_isPrefixOf,
    List.isPrefixOf_iff_prefix]

theorem dropMark_append (lead t : Text) : dropMark lead (lead ++ t) = (true, t) := by
  rw [dropMark, List.isPrefixOf?_eq_some_iff_append_eq.2 rfl]

theorem dropMark_of_no_lead {lead t : Text} (h : ¬ lead <+: t) :
    dropMark lead t = (false, t) := by
  rw [dropMark, isPrefixOf?_eq_none.2 h]

theorem prefix_of_prefix_append {lead word rest : Text} (hlead : ∀ c ∈ lead, isBlank c = false)
    (hrest : ∀ c ∈ rest.head?, isBlank c = true) (h : lead <+: word ++ rest) : lead <+: word := by
  obtain ⟨u, hu⟩ := h
  rcases List.append_eq_append_iff.1 hu with ⟨v, hword, -⟩ | ⟨v, hv, hrest'⟩
  · exact ⟨v, hword.symm⟩
  · cases v with
    | nil => exact ⟨[], by simpa using hv⟩
    | cons c v =>
      have hc : isBlank c = true := hrest c (by simp [hrest'])
      rw [hlead c (by simp [hv])] at hc
      cases hc

end Text

namespace Parameter

open Text

def marks (byReference variadic : Bool) : Text :=
  (if byReference then ['&'] else []) ++ if variadic then ellipsis else []

theorem signature_eq (p : Parameter) : p.signature =
    p.type.render ++ ([' '] ++ (marks p.byReference p.variadic ++ '$' :: p.name)) := by
  simp [signature, marks, ellipsis]

theorem render_eq (p : Parameter) : p.render = p.type.render ++
    ([' '] ++ (marks p.byReference p.variadic ++ '$' :: (p.name ++ trailing p.description))) := by
  simp [render, signature_eq]

theorem render_ne_nil (p : Parameter) : p.render ≠ [] := by simp [render_eq]

theorem dropMark_reference (byReference variadic : Bool) (t : Text) :
    dropMark ['&'] (marks byReference variadic ++ '$' :: t) =
      (byReference, marks false variadic ++ '$' :: t) := by
  cases byReference with
  | true => exact dropMark_append ['&'] _
  | false =>
    apply dropMark_of_no_lead
    cases variadic <;> simp [marks, ellipsis]

theorem dropMark_ellipsis (variadic : Bool) (t : Text) :
    dropMark ellipsis (marks false variadic ++ '$' :: t) = (variadic, '$' :: t) := by
  cases variadic with
  | true => exact dropMark_append ellipsis _
  | false =>
    apply dropMark_of_no_lead
    simp [marks, ellipsis]

theorem read?_variable {byReference variadic : Bool} {name rest : Text} (hne : name ≠ [])
    (hword : ∀ c ∈ name, isWord c = true) (hrest : ∀ c ∈ rest.head?, isWord c = false) :
    Variable.read? (marks byReference variadic ++ '$' :: (name ++ rest)) =
      some ⟨byReference, variadic, name, rest⟩ := by
  simp only [Variable.read?, dropMark_reference, dropMark_ellipsis,
    takeWhile_append_run hword hrest, dropWhile_append_run hword hrest]

theorem startsVariable_marks (byReference variadic : Bool) (t : Text) :
    startsVariable (marks byReference variadic ++ '$' :: t) = true := by
  rw [startsVariable, dropMark_reference, dropMark_ellipsis]
  rfl

theorem head?_marks (byReference variadic : Bool) (t : Text) :
    ∀ c ∈ (marks byReference variadic ++ '$' :: t).head?, isBlank c = false := by
  cases byReference <;> cases variadic <;> rintro _ ⟨⟩ <;> decide

def variableLeads : List Text := ["$".toList, "&$".toList, "&...$".toList, "...".toList]

theorem startsVariable_eq_false {word : Text} (h : ∀ lead ∈ variableLeads, ¬ lead <+: word) :
    startsVariable word = false := by
  have hdollar : ¬ ['$'] <+: word := h _ (by decide)
  have hamp : ¬ ['&', '$'] <+: word := h _ (by decide)
  have hboth : ¬ ['&', '.', '.', '.', '$'] <+: word := h _ (by decide)
  have hdots : ¬ ellipsis <+: word := h _ (by decide)
  have hstart : ¬ ['$'] <+: (dropMark ellipsis (dropMark ['&'] word).2).2 := by
    by_cases hlead : ['&'] <+: word
    · obtain ⟨t, rfl⟩ := hlead
      rw [dropMark_append]
      by_cases ht : ellipsis <+: t
      · obtain ⟨u, rfl⟩ := ht
        rw [dropMark_append]
        intro hu
        apply hboth
        simpa [ellipsis] using hu
      · rw [dropMark_of_no_lead ht]
        intro hu
        apply hamp
        simpa using hu
    · rw [dropMark_of_no_lead hlead, dropMark_of_no_lead hdots]
      exact hdollar
  unfold startsVariable
  split
  · rename_i e
    rw [e] at hstart
    simp at hstart
  · rfl

theorem not_variableLead {c : Char} (hc : c ∉ ['$', '&', '.']) (rest : Text) :
    ∀ lead ∈ variableLeads, ¬ lead <+: c :: rest := by
  have table : ∀ lead ∈ variableLeads, lead ≠ [] ∧ ∀ d ∈ lead.take 1, d ∈ ['$', '&', '.'] := by
    decide
  rintro lead hlead ⟨v, e⟩
  obtain ⟨hne, hmark⟩ := table lead hlead
  obtain ⟨d, lead, rfl⟩ := List.exists_cons_of_ne_nil hne
  obtain ⟨rfl, -⟩ := List.cons.inj e
  exact hc (hmark d (by simp))

theorem readMarked_typed {s : Scope} {head gap name rest : Text} {byReference variadic : Bool}
    {type : Ty} (leading : Bool) (hne : head ≠ []) (hsolid : ∀ c ∈ head, isBlank c = false)
    (hlead : ∀ lead ∈ variableLeads, ¬ lead <+: head) (hgap : gap ≠ []) (hblank : gap.Blank)
    (hname : name ≠ []) (hword : ∀ c ∈ name, isWord c = true)
    (hrest : ∀ c ∈ rest.head?, isWord c = false) (htype : Ty.resolve s head = .ok type) :
    readMarked s leading
        (head ++ (gap ++ (marks byReference variadic ++ '$' :: (name ++ rest)))) =
      .found { name, type, byReference, variadic := leading || variadic,
               description := some rest.dedent } := by
  have hhead : ∀ c ∈ (gap ++ (marks byReference variadic ++ '$' :: (name ++ rest))).head?,
      (!isBlank c) = false := by
    simpa using hblank.head?_append hgap (marks byReference variadic ++ '$' :: (name ++ rest))
  have hword' : ∀ c ∈ head, (!isBlank c) = true := by simpa using hsolid
  have hread : readType s (head ++ (gap ++ (marks byReference variadic ++ '$' :: (name ++ rest)))) =
      .ok (type, marks byReference variadic ++ '$' :: (name ++ rest)) := by
    simp only [readType, takeWhile_append_run hword' hhead, dropWhile_append_run hword' hhead,
      startsVariable_eq_false hlead, Bool.false_eq_true, if_false, htype,
      trimStart_append hblank (head?_marks _ _ _)]
  unfold readMarked
  split
  · rename_i e
    exact absurd (List.append_eq_nil_iff.1 e).1 hne
  · rw [hread]
    simp only [read?_variable hname hword hrest]

theorem readMarked_untyped {s : Scope} {name rest : Text} {byReference variadic : Bool}
    (leading : Bool) (hname : name ≠ []) (hword : ∀ c ∈ name, isWord c = true)
    (hrest : ∀ c ∈ rest.head?, isWord c = false) :
    readMarked s leading (marks byReference variadic ++ '$' :: (name ++ rest)) =
      .found { name, type := .mixed, byReference, variadic := leading || variadic,
               description := some rest.dedent } := by
  have hmarks : ∀ c ∈ marks byReference variadic ++ ['$'], (!isBlank c) = true := by
    cases byReference <;> cases variadic <;> decide
  have hstart : startsVariable
      ((marks byReference variadic ++ '$' :: (name ++ rest)).takeWhile (!isBlank ·)) = true := by
    rw [← List.singleton_append, ← List.append_assoc, List.takeWhile_append_of_pos hmarks,
      List.append_assoc]
    exact startsVariable_marks byReference variadic _
  have hread : readType s (marks byReference variadic ++ '$' :: (name ++ rest)) =
      .ok (.mixed, marks byReference variadic ++ '$' :: (name ++ rest)) := by
    simp only [readType, hstart, if_true]
  unfold readMarked
  split
  · rename_i e
    exact absurd (List.append_eq_nil_iff.1 e).2 (by simp)
  · rw [hread]
    simp only [read?_variable hname hword hrest]

theorem read_append {s : Scope} {a t b : Text} (ha : a.Blank) (ht : t.Tight) (hb : b.Blank) :
    read s (a ++ t ++ b) = read s t := by
  rw [read, read, trim_append ha ht hb, ht.trim_eq]

theorem read_of_no_ellipsis {s : Scope} {t : Text} (ht : t.Tight) (h : ¬ ellipsis <+: t) :
    read s t = readMarked s false t := by
  rw [read, ht.trim_eq, isPrefixOf?_eq_none.2 h]

theorem tight_ellipsis (gap : Text) {t : Text} (ht : t.Tight) (hne : t ≠ []) :
    (ellipsis ++ (gap ++ t)).Tight := by
  refine ⟨by rintro _ ⟨⟩; decide, ?_⟩
  rw [← List.append_assoc, List.getLast?_append_of_ne_nil _ hne]
  exact ht.last

theorem read_ellipsis {s : Scope} {gap t : Text} (hgap : gap.Blank) (ht : t.Tight) (hne : t ≠ []) :
    read s (ellipsis ++ (gap ++ t)) = readMarked s true t := by
  rw [read, (tight_ellipsis gap ht hne).trim_eq, List.isPrefixOf?_eq_some_iff_append_eq.2 rfl]
  exact congrArg (readMarked s true) (trimStart_append hgap ht.head)

structure Layout where
  (before head gap : Text)
  (byReference variadic : Bool)
  (name after : Text)
  before_blank : before.Blank
  head_ne_nil : head ≠ []
  head_char : ∀ c ∈ head, isBlank c = false ∧ c ≠ ',' ∧ c ≠ ')'
  head_lead : ∀ lead ∈ variableLeads, ¬ lead <+: head
  gap_ne_nil : gap ≠ []
  gap_blank : gap.Blank
  name_ne_nil : name ≠ []
  name_word : ∀ c ∈ name, isWord c = true
  after_blank : after.Blank

namespace Layout

def core (l : Layout) : Text :=
  l.head ++ (l.gap ++ (marks l.byReference l.variadic ++ '$' :: l.name))

def text (l : Layout) : Text := l.before ++ l.core ++ l.after

def parameter (l : Layout) (type : Ty) : Parameter :=
  { name := l.name, type, byReference := l.byReference, variadic := l.variadic,
    description := some [] }

theorem tight_core (l : Layout) : l.core.Tight := by
  refine ⟨?_, ?_⟩
  · intro c hc
    rw [core, List.head?_append_of_ne_nil _ l.head_ne_nil] at hc
    exact (l.head_char c (List.mem_of_head? hc)).1
  · intro c hc
    rw [core, List.getLast?_append_of_ne_nil _ (by simp),
      List.getLast?_append_of_ne_nil _ (by simp), List.getLast?_append_of_ne_nil _ (by simp),
      List.getLast?_cons_of_ne_nil l.name_ne_nil] at hc
    exact not_isBlank_of_isWord (l.name_word c (List.mem_of_getLast? hc))

@[simp] theorem trim_text (l : Layout) : l.text.trim = l.core :=
  trim_append l.before_blank l.tight_core l.after_blank

theorem read_core {s : Scope} (l : Layout) {type : Ty} (h : Ty.resolve s l.head = .ok type) :
    read s l.core = .found (l.parameter type) := by
  have hdots : ¬ ellipsis <+: l.core := by
    intro hlead
    exact l.head_lead ellipsis (by decide)
      (prefix_of_prefix_append (by decide) (l.gap_blank.head?_append l.gap_ne_nil _) hlead)
  have hread : readMarked s false
      (l.head ++ (l.gap ++ (marks l.byReference l.variadic ++ '$' :: (l.name ++ [])))) =
      .found (l.parameter type) :=
    readMarked_typed false l.head_ne_nil (fun c hc => (l.head_char c hc).1) l.head_lead l.gap_ne_nil
      l.gap_blank l.name_ne_nil l.name_word (by simp) h
  rw [List.append_nil] at hread
  rw [read_of_no_ellipsis l.tight_core hdots]
  exact hread

theorem not_mem_text (l : Layout) : ',' ∉ l.text ∧ ')' ∉ l.text := by
  have marks_char : ∀ c ∈ marks l.byReference l.variadic, c = '&' ∨ c = '.' := by
    cases l.byReference <;> cases l.variadic <;> decide
  have char : ∀ c ∈ l.text,
      isBlank c = true ∨ c ∈ l.head ∨ isWord c = true ∨ c ∈ ['&', '.', '$'] := by
    intro c hc
    simp only [text, core, List.mem_append, List.mem_cons] at hc
    rcases hc with (hc | hc | hc | hc | rfl | hc) | hc
    · exact .inl (l.before_blank c hc)
    · exact .inr (.inl hc)
    · exact .inl (l.gap_blank c hc)
    · rcases marks_char c hc with rfl | rfl <;> simp
    · simp
    · exact .inr (.inr (.inl (l.name_word c hc)))
    · exact .inl (l.after_blank c hc)
  constructor
  · intro hc
    rcases char _ hc with h | h | h | h
    · exact absurd h (by decide)
    · exact (l.head_char _ h).2.1 rfl
    · exact absurd h (by decide)
    · exact absurd h (by decide)
  · intro hc
    rcases char _ hc with h | h | h | h
    · exact absurd h (by decide)
    · exact (l.head_char _ h).2.2 rfl
    · exact absurd h (by decide)
    · exact absurd h (by decide)

end Layout

end Parameter

end DocTag
