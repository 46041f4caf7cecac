import DocTag.Proofs.Tag.Layout
import DocTag.Proofs.Tag.Reading
import DocTag.Proofs.Tag.Written

namespace DocTag

open Text

theorem Text.not_mem_of_mem_arguments {t fragment : Text} (h : fragment ∈ t.arguments) :
    ',' ∉ fragment ∧ ∀ c ∉ t, c ∉ fragment := by
  unfold Text.arguments at h
  split at h
  · cases h
  · obtain ⟨piece, hpiece, rfl⟩ := List.mem_map.1 h
    constructor
    · exact fun hc => not_mem_of_mem_splitOn hpiece (mem_of_mem_trim hc)
    · exact fun c hc hmem => hc (mem_of_mem_splitOn hpiece (mem_of_mem_trim hmem))

namespace Parameter

theorem Variable.name_of_read? {t : Text} {v : Variable} (h : Variable.read? t = some v) :
    v.name ≠ [] ∧ ∀ c ∈ v.name, isWord c = true := by
  unfold Variable.read? at h
  simp only at h
  split at h
  · split at h
    · cases h
    · rename_i hne
      obtain rfl := Option.some.inj h
      exact ⟨hne, fun c hc => List.mem_takeWhile_imp hc⟩
  · cases h

structure TypeWord (fragment word : Text) : Prop where
  not_isBlank : ∀ c ∈ word, isBlank c = false
  mem : ∀ c ∈ word, c ∈ fragment ∨ isWord c = true
  head : word.head? ≠ some '$'

theorem TypeWord.mono {t fragment word : Text} (h : TypeWord t word) (ht : ∀ c ∈ t, c ∈ fragment) :
    TypeWord fragment word where
  not_isBlank := h.not_isBlank
  mem c hc := (h.mem c hc).imp (ht c) id
  head := h.head

theorem readType_eq_ok {s : Scope} {t rest : Text} {type : Ty}
    (h : readType s t = .ok (type, rest)) :
    ∃ word, TypeWord t word ∧ Ty.resolve s word = .ok type := by
  unfold readType at h
  simp only at h
  split at h
  · obtain ⟨rfl, -⟩ := Prod.mk.inj (Except.ok.inj h)
    have hword : ∀ c ∈ "mixed".toList, isWord c = true := by decide
    exact ⟨"mixed".toList, ⟨by decide, fun c hc => .inr (hword c hc), by decide⟩,
      Ty.resolve_eq_ok.2 ⟨.keyword .mixed, by decide +kernel, rfl⟩⟩
  · rename_i hstart
    split at h
    · rename_i type' hresolve
      obtain ⟨rfl, -⟩ := Prod.mk.inj (Except.ok.inj h)
      refine ⟨_, ⟨?_, fun c hc => .inl ((List.takeWhile_sublist _).subset hc), ?_⟩, hresolve⟩
      · intro c hc
        simpa using List.mem_takeWhile_imp hc
      · intro hhead
        obtain ⟨w, hw⟩ := List.head?_eq_some_iff.1 hhead
        rw [hw] at hstart
        exact hstart (startsVariable_marks false false w)
    · cases h

theorem readMarked_eq_found {s : Scope} {leading : Bool} {t : Text} {p : Parameter}
    (h : readMarked s leading t = .found p) : p.name ≠ [] ∧ (∀ c ∈ p.name, isWord c = true) ∧
      ∃ word, TypeWord t word ∧ Ty.resolve s word = .ok p.type := by
  unfold readMarked at h
  split at h
  · cases h
  · split at h
    · cases h
    · rename_i type rest htype
      split at h
      · cases h
      · rename_i v hv
        obtain rfl := Reading.found.inj h
        obtain ⟨hne, hword⟩ := Variable.name_of_read? hv
        exact ⟨hne, hword, readType_eq_ok htype⟩

theorem read_eq_found {s : Scope} {fragment : Text} {p : Parameter}
    (h : read s fragment = .found p) : p.name ≠ [] ∧ (∀ c ∈ p.name, isWord c = true) ∧
      ∃ word, TypeWord fragment word ∧ Ty.resolve s word = .ok p.type := by
  unfold read at h
  split at h
  · rename_i rest hrest
    obtain ⟨hne, hword, word, hw, hresolve⟩ := readMarked_eq_found h
    refine ⟨hne, hword, word, hw.mono ?_, hresolve⟩
    intro c hc
    apply mem_of_mem_trim
    rw [← List.isPrefixOf?_eq_some_iff_append_eq.1 hrest]
    exact List.mem_append_right _ ((List.dropWhile_sublist _).subset hc)
  · obtain ⟨hne, hword, word, hw, hresolve⟩ := readMarked_eq_found h
    exact ⟨hne, hword, word, hw.mono fun c hc => mem_of_mem_trim hc, hresolve⟩

structure Writable (p : Parameter) : Prop where
  head_ne_nil : p.type.render ≠ []
  head_char : ∀ c ∈ p.type.render, isBlank c = false ∧ c ≠ ',' ∧ c ≠ ')'
  head_lead : ∀ lead ∈ variableLeads, ¬ lead <+: p.type.render
  name_ne_nil : p.name ≠ []
  name_word : ∀ c ∈ p.name, isWord c = true
  restores : ∃ u, Ty.Restores p.type.render u

theorem writable_of_read {s : Scope} (hs : s.Within IsNameChar) {fragment : Text} {p : Parameter}
    (hfragment : ',' ∉ fragment ∧ ')' ∉ fragment) (h : read s fragment = .found p) :
    p.Writable := by
  obtain ⟨hne, hname, word, hword, hresolve⟩ := read_eq_found h
  have hrestores := Ty.exists_restores_of_resolve (hs.mono fun _ => isPlain_of_isNameChar) hresolve
  have hchar : ∀ c ∈ word, c ≠ ',' ∧ c ≠ ')' := by
    intro c hc
    constructor
    · rintro rfl
      exact (hword.mem _ hc).elim hfragment.1 (by decide)
    · rintro rfl
      exact (hword.mem _ hc).elim hfragment.2 (by decide)
  have hwritten := Ty.written_of_resolve hs hresolve fun c hc =>
    ⟨hword.not_isBlank c hc, (hchar c hc).2⟩
  obtain ⟨c, hc, hletter⟩ := hwritten.head hword.head
  obtain ⟨rest, hrender⟩ := List.head?_eq_some_iff.1 hc
  refine ⟨by simp [hrender], ?_, ?_, hne, hname, hrestores⟩
  · intro d hd
    rcases hwritten.mem d hd with hd | hd
    · exact ⟨hword.not_isBlank d hd, hchar d hd⟩
    · refine ⟨(isPlain_of_isNameChar hd).1, ?_, ?_⟩
      · rintro rfl
        exact absurd hd (by decide)
      · rintro rfl
        exact absurd hd (by decide)
  · rw [hrender]
    apply not_variableLead
    intro hmem
    have table : ∀ d ∈ ['$', '&', '.'], ¬ (d = '\\' ∨ d = '?' ∨ d.isAlpha = true) := by decide
    exact table c hmem hletter

def Writable.layout {p : Parameter} (h : p.Writable) {before : Text} (hbefore : before.Blank) :
    Layout where
  before := before
  head := p.type.render
  gap := [' ']
  byReference := p.byReference
  variadic := p.variadic
  name := p.name
  after := []
  before_blank := hbefore
  head_ne_nil := h.head_ne_nil
  head_char := h.head_char
  head_lead := h.head_lead
  gap_ne_nil := by simp
  gap_blank := by decide
  name_ne_nil := h.name_ne_nil
  name_word := h.name_word
  after_blank := blank_nil

structure Layout.Of (l : Layout) (p : Parameter) : Prop where
  head : l.head = p.type.render
  byReference : l.byReference = p.byReference
  variadic : l.variadic = p.variadic
  name : l.name = p.name
  restores : ∃ u, Ty.Restores l.head u

theorem Layout.Of.signature_parameter {l : Layout} {p : Parameter} (h : l.Of p) {type : Ty}
    (htype : type.render = l.head) : (l.parameter type).signature = p.signature := by
  rw [signature_eq, signature_eq]
  simp only [Layout.parameter, htype, h.head, h.byReference, h.variadic, h.name]

theorem Writable.of_layout {p : Parameter} (h : p.Writable) {before : Text}
    (hbefore : before.Blank) : (h.layout hbefore).Of p := ⟨rfl, rfl, rfl, rfl, h.restores⟩

theorem Writable.text_layout {p : Parameter} (h : p.Writable) {before : Text}
    (hbefore : before.Blank) : (h.layout hbefore).text = before ++ p.signature := by
  rw [signature_eq]
  exact List.append_nil _

theorem exists_layouts {ps : List Parameter} (hne : ps ≠ []) (h : ∀ p ∈ ps, p.Writable)
    {before : Text} (hbefore : before.Blank) : ∃ ls : List Layout,
      [','].intercalate (ls.map Layout.text) = before ++ [',', ' '].intercalate (ps.map signature) ∧
      List.Forall₂ Layout.Of ls ps := by
  induction ps generalizing before with
  | nil => contradiction
  | cons p ps ih =>
    have hp := h p (by simp)
    cases ps with
    | nil =>
      exact ⟨[hp.layout hbefore], by simp [hp.text_layout], .cons (hp.of_layout hbefore) .nil⟩
    | cons q ps =>
      have hblank : Text.Blank [' '] := by decide
      obtain ⟨ls, hjoin, hls⟩ := ih (by simp) (fun p hp => h p (by simp [hp])) hblank
      have hls' : ls.map Layout.text ≠ [] := by
        cases hls with
        | cons => simp
      refine ⟨hp.layout hbefore :: ls, ?_, .cons (hp.of_layout hbefore) hls⟩
      rw [List.map_cons, List.intercalate_cons_of_ne_nil hls', hjoin, hp.text_layout hbefore]
      simp

theorem exists_types {ls : List Layout} {ps : List Parameter} (h : List.Forall₂ Layout.Of ls ps)
    (s : Scope) : ∃ types, List.Forall₂ (fun l t => Ty.resolve s l.head = .ok t) ls types ∧
      (List.zipWith Layout.parameter ls types).map signature = ps.map signature := by
  induction h with
  | nil => exact ⟨[], .nil, rfl⟩
  | cons hl _ ih =>
    obtain ⟨u, hu⟩ := hl.restores
    obtain ⟨types, htypes, hsignature⟩ := ih
    refine ⟨u :: types, .cons (hu.resolve s) htypes, ?_⟩
    rw [List.zipWith_cons_cons, List.map_cons, List.map_cons, hsignature,
      hl.signature_parameter hu.render]

end Parameter

namespace Method

def tail (m : Method) : Text :=
  m.name ++ ('(' :: [',', ' '].intercalate (m.parameters.map Parameter.signature) ++
    ')' :: trailing m.description)

theorem render_eq (m : Method) (h : m.returns.render ≠ []) : m.render =
    (if m.isStatic then "static".toList ++ [' '] else []) ++
      (m.returns.render ++ [' '] ++ m.tail) := by
  cases hs : m.isStatic <;> simp [render, head, tail, hs, h, m.name_ne_nil]

theorem render_ne_nil (m : Method) : m.render ≠ [] := by simp [render]

theorem Ending.not_carries (e : Ending) (token rest : Text) : ¬ Carries e.tail token rest := by
  -- The parenthesis that follows the name belongs to no return type.
  intro h
  generalize htail : e.tail = tail at h
  obtain ⟨htoken, hne, hgap, -⟩ := h
  rename_i gap
  have hno : '(' ∉ token := by
    rcases htoken with rfl | htoken
    · simp
    · exact fun hc => absurd (htoken.mem hc) (by decide)
  rw [Ending.tail, List.append_assoc] at htail
  obtain ⟨v, hname, hv⟩ := exists_append_of_not_mem hno htail.symm
  obtain ⟨c, gap, rfl⟩ := List.exists_cons_of_ne_nil hne
  have hc : isBlank c = true := hgap c (by simp)
  cases v with
  | nil =>
    obtain ⟨rfl, -⟩ := List.cons.inj hv
    exact absurd hc (by decide)
  | cons d v =>
    obtain ⟨rfl, -⟩ := List.cons.inj hv
    rw [not_isBlank_of_isWord (e.name_word c (by simp [hname]))] at hc
    cases hc

structure Writable (m : Method) : Prop where
  returns_token : ReturnToken m.returns.render
  returns_restores : ∃ u, Ty.Restores m.returns.render u
  returns_static : m.returns.render = "static".toList → m.returns = .keyword .static
  name_word : ∀ c ∈ m.name, isWord c = true
  parameters : ∀ p ∈ m.parameters, p.Writable
  description : ∃ d, m.description = some d ∧ d.dedent = d

theorem exists_mem_of_forall₂ {α β : Type} {R : α → β → Prop} {as : List α} {bs : List β}
    (h : List.Forall₂ R as bs) : ∀ b ∈ bs, ∃ a ∈ as, R a b := by
  induction h with
  | nil => simp
  | @cons a b as bs hab _ ih =>
    rw [List.forall_mem_cons]
    exact ⟨⟨a, by simp, hab⟩, fun c hc => (ih c hc).imp fun _ h => ⟨by simp [h.1], h.2⟩⟩

theorem Opens.token {body token start : Text} {isStatic : Bool}
    (h : Opens body isStatic token start) : token = [] ∨ ReturnToken token := by
  have returns : ∀ {t}, Returns t token start → token = [] ∨ ReturnToken token := by
    intro t h
    cases h with
    | typed h =>
      obtain ⟨h, -⟩ := h
      exact h
    | untyped => exact .inl rfl
  cases h with
  | static _ h => exact returns h
  | plain _ h => exact returns h

theorem Closes.not_mem {t arguments rest : Text} (h : Closes t arguments rest) :
    ')' ∉ arguments := by
  cases h with
  | arguments hno => exact hno
  | bare => simp

theorem writable_of_read {s : Scope} (hs : s.Within IsNameChar) {body : Text} {m : Method}
    (h : read s body = .found m) : m.Writable := by
  obtain ⟨sig, hbody, -, hname, hdescription, htype, hps⟩ := read_eq_found_iff.1 h
  obtain ⟨hopens, -, -, hword, -, hcloses, htrim⟩ := hbody
  have htoken : ReturnToken sig.typeText := by
    unfold Signature.typeText
    rcases hopens.token with e | h
    · rw [e]
      exact (isReturnToken_iff.1 (by decide)).resolve_left (by decide)
    · rwa [if_neg (by simpa using h.ne_nil)]
  have hwritten : Ty.Written _ m.returns := Ty.written_of_resolve hs htype fun c hc =>
    ⟨htoken.not_isBlank c hc, htoken.ne_close c hc⟩
  constructor
  · exact hwritten.returnToken htoken
  · exact Ty.exists_restores_of_resolve (hs.mono fun _ => isPlain_of_isNameChar) htype
  · exact hwritten.static
  · rwa [hname]
  · intro p hp
    obtain ⟨t, ht, hread⟩ := exists_mem_of_forall₂ hps p hp
    obtain ⟨hcomma, hno⟩ := not_mem_of_mem_arguments ht
    exact Parameter.writable_of_read hs ⟨hcomma, hno _ hcloses.not_mem⟩ hread
  · refine ⟨_, hdescription, (dedented_dedent ?_).dedent_eq⟩
    rw [← htrim]
    exact head?_trimStart _

namespace Writable

variable {m : Method}

def ending (h : m.Writable) (ls : List Parameter.Layout) {d : Text} (hd : d.dedent = d) :
    Ending where
  name := m.name
  parameters := ls
  filling := []
  descriptionGap := if d.isEmpty then [] else [' ']
  description := d
  name_ne_nil := m.name_ne_nil
  name_word := h.name_word
  filling_blank := blank_nil
  descriptionGap_blank := by split <;> decide
  description_dedent := hd

theorem exists_ending (h : m.Writable) : ∃ e : Ending, e.tail = m.tail ∧ ∀ s, ∃ types,
    List.Forall₂ (fun p t => Ty.resolve s p.head = .ok t) e.parameters types ∧
    ∀ isStatic returns, (e.method isStatic returns types).tail = m.tail := by
  obtain ⟨d, hd, hdedent⟩ := h.description
  obtain ⟨ls, hjoin, hls⟩ : ∃ ls : List Parameter.Layout,
      [','].intercalate (ls.map Parameter.Layout.text) =
        [',', ' '].intercalate (m.parameters.map Parameter.signature) ∧
      List.Forall₂ Parameter.Layout.Of ls m.parameters := by
    by_cases hne : m.parameters = []
    · exact ⟨[], by rw [hne]; rfl, by rw [hne]; exact .nil⟩
    · exact Parameter.exists_layouts hne h.parameters blank_nil
  refine ⟨h.ending ls hdedent, ?_, ?_⟩
  · have harguments :
        (h.ending ls hdedent).arguments = [','].intercalate (ls.map Parameter.Layout.text) := by
      cases ls <;> rfl
    have hdescription : (h.ending ls hdedent).descriptionGap ++ d = trailing (some d) := by
      cases d <;> rfl
    rw [Ending.tail, tail, harguments, hjoin, hd, ← hdescription]
    rfl
  · intro s
    obtain ⟨types, htypes, hsignature⟩ := Parameter.exists_types hls s
    refine ⟨types, htypes, ?_⟩
    intro isStatic returns
    rw [tail, tail, hd, ← hsignature]
    rfl

def layout (h : m.Writable) (hstatic : m.isStatic = false → m.returns ≠ .keyword .static)
    (e : Ending) : Layout where
  toEnding := e
  isStatic := m.isStatic
  staticGap := [' ']
  returns := m.returns.render
  returnsGap := [' ']
  staticGap_ne_nil := by simp
  staticGap_blank := by decide
  returns_token := h.returns_token
  returns_ne_static hplain hrender := hstatic hplain (h.returns_static hrender)
  returnsGap_ne_nil := by simp
  returnsGap_blank := by decide

theorem read_render (h : m.Writable) (hstatic : m.isStatic = false → m.returns ≠ .keyword .static)
    (s : Scope) : ∃ m', read s m.render = .found m' ∧ m'.render = m.render := by
  obtain ⟨e, htail, hread⟩ := h.exists_ending
  obtain ⟨types, htypes, hrest⟩ := hread s
  obtain ⟨u, hu⟩ := h.returns_restores
  have hne := h.returns_token.ne_nil
  refine ⟨e.method m.isStatic u types, ?_, ?_⟩
  · have htext : (h.layout hstatic e).text = m.render := by
      rw [render_eq m hne, ← htail]
      rfl
    rw [← htext]
    exact (h.layout hstatic e).read_text (hu.resolve s) htypes
  · rw [← hu.render] at hne
    rw [render_eq _ hne, render_eq m h.returns_token.ne_nil, hrest, ← hu.render]
    rfl

theorem read_render_static (h : m.Writable) (hplain : m.isStatic = false)
    (hstatic : m.returns = .keyword .static) (s : Scope) :
    ∃ m', read s m.render = .found m' ∧ m'.render = "static void ".toList ++ m.tail := by
  obtain ⟨e, htail, hread⟩ := h.exists_ending
  obtain ⟨types, htypes, hrest⟩ := hread s
  have hopens : Opens m.render true [] e.tail := by
    have hrender : m.render = "static".toList ++ [' '] ++ e.tail := by
      rw [render_eq m h.returns_token.ne_nil, hplain, hstatic, htail]
      rfl
    rw [hrender]
    refine .static (.intro (by simp) (by decide) ?_ (.inl e.startsWord_tail))
      (.untyped e.not_carries)
    exact head?_of_startsWord e.startsWord_tail
  have hvoid : Ty.resolve s "void".toList = .ok .void :=
    Ty.resolve_eq_ok.2 ⟨.void, by decide +kernel, rfl⟩
  refine ⟨e.method true .void types, e.read_of_opens hopens hvoid htypes, ?_⟩
  rw [render_eq _ (by decide : Ty.void.render ≠ []), hrest]
  rfl

end Writable

/-- The written form of a recognised method is recognised in every scope. It is the same text once
    more, except that a return type `static` of a method without the mark becomes the mark. -/
theorem recognise_render {s : Scope} (hs : s.Within IsNameChar) (s' : Scope) {body : Text}
    {m : Method} (h : recognise {} s (some body) = .found m) :
    ∃ m', recognise {} s' (some m.render) = .found m' ∧
      (m'.render = m.render ↔ ¬ (m.isStatic = false ∧ m.returns = .keyword .static)) := by
  have hbody : body ≠ [] := by
    rintro rfl
    cases h
  rw [recognise, Equipment.reading_text hbody] at h
  have hm := writable_of_read hs h
  rw [recognise, Equipment.reading_text m.render_ne_nil]
  by_cases hbad : m.isStatic = false ∧ m.returns = .keyword .static
  · obtain ⟨m', hread, hm'⟩ := hm.read_render_static hbad.1 hbad.2 s'
    have hstatic : m.render = "static ".toList ++ m.tail := by
      rw [render_eq m hm.returns_token.ne_nil, hbad.1, hbad.2]
      rfl
    refine ⟨m', hread, fun e => ?_, fun hgood => absurd hbad hgood⟩
    rw [hm', hstatic] at e
    exact absurd (List.append_cancel_right e) (by decide)
  · obtain ⟨m', hread, hm'⟩ := hm.read_render (fun hplain hstatic => hbad ⟨hplain, hstatic⟩) s'
    exact ⟨m', hread, by simp [hm', hbad]⟩

/-- The keyword in another letter case is a return type, but what it is written as is the mark. -/
theorem recognise_render_capital :
    let m : Method := { name := "foo".toList, returns := .keyword .static, description := some [] }
    recognise {} {} (some "Static foo()".toList) = .found m ∧ m.render = "static foo()".toList ∧
      ∃ m', recognise {} {} (some m.render) = .found m' ∧ m'.render ≠ m.render := by
  intro m
  let l : Layout :=
    { isStatic := false, staticGap := [' '], returns := "Static".toList, returnsGap := [' ']
      name := "foo".toList, parameters := [], filling := [], descriptionGap := [], description := []
      staticGap_ne_nil := by decide, staticGap_blank := by decide
      returns_token := (isReturnToken_iff.1 (by decide)).resolve_left (by decide)
      returns_ne_static := by decide, returnsGap_ne_nil := by decide
      returnsGap_blank := by decide, name_ne_nil := by decide
      name_word := by decide, filling_blank := blank_nil
      descriptionGap_blank := blank_nil, description_dedent := dedent_nil }
  have hreturns : Ty.resolve {} l.returns = .ok (.keyword .static) :=
    Ty.resolve_eq_ok.2 ⟨.keyword .static, by decide +kernel, rfl⟩
  have h : recognise {} {} (some "Static foo()".toList) = .found m :=
    (Equipment.reading_text (by decide)).trans (l.read_text hreturns .nil)
  have hs : Scope.Within IsNameChar {} := ⟨by simp, by simp, by simp⟩
  obtain ⟨m', hread, hm'⟩ := recognise_render hs {} h
  exact ⟨h, by decide, m', hread, fun e => hm'.1 e ⟨rfl, rfl⟩⟩

end Method

end DocTag
