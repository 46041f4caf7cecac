import DocTag.Proofs.Tag.Parameter
import DocTag.Registry

namespace DocTag

open Text

theorem not_isTagNameChar_of_isBlank {c : Char} (h : isBlank c = true) :
    isTagNameChar c = false := by
  cases hc : isTagNameChar c with
  | false => rfl
  | true =>
    simp only [isTagNameChar, Bool.or_eq_true, beq_iff_eq] at hc
    rcases hc with ((hc | rfl) | rfl) | rfl
    · rw [not_isWord_of_isBlank h] at hc
      cases hc
    all_goals exact absurd h (by decide)

theorem not_isBlank_of_isTagNameChar {c : Char} (h : isTagNameChar c = true) :
    isBlank c = false := by
  cases hc : isBlank c with
  | false => rfl
  | true =>
    rw [not_isTagNameChar_of_isBlank hc] at h
    cases h

/-- Without outer blanks, and without one `@` if there is one, the line is a name and what follows
    it. The name goes as far as it can, and ends with the line or before a blank. -/
structure TagLine.Of (line : Text) (l : TagLine) : Prop where
  name_ne_nil : l.name ≠ []
  name_char : ∀ c ∈ l.name, isTagNameChar c = true
  cut : ∃ mark rest, (mark = [] ∨ mark = ['@']) ∧ line.trim = mark ++ (l.name ++ rest) ∧
    (∀ c ∈ rest.head?, isBlank c = true) ∧ l.body = rest.trim

namespace TagLine

theorem dropMark_at {mark t : Text} (hmark : mark = [] ∨ mark = ['@'])
    (ht : ∀ c ∈ t.head?, isTagNameChar c = true) : (dropMark ['@'] (mark ++ t)).2 = t := by
  rcases hmark with rfl | rfl
  · rw [List.nil_append, dropMark_of_no_lead]
    rintro ⟨u, rfl⟩
    exact absurd (ht '@' rfl) (by decide)
  · rw [dropMark_append]

theorem exists_mark (t : Text) :
    ∃ mark, (mark = [] ∨ mark = ['@']) ∧ t = mark ++ (dropMark ['@'] t).2 := by
  unfold dropMark
  cases h : ['@'].isPrefixOf? t with
  | none => exact ⟨[], .inl rfl, rfl⟩
  | some rest => exact ⟨['@'], .inr rfl, (List.isPrefixOf?_eq_some_iff_append_eq.1 h).symm⟩

theorem trim_cons_of_blank {c : Char} (h : isBlank c = true) (t : Text) :
    trim (c :: t) = trim t := by
  have hblank : Blank [c] := by simpa [Blank]
  exact trim_append_of_blank hblank t

theorem ofText?_eq_some_iff {line : Text} {l : TagLine} : ofText? line = some l ↔ l.Of line := by
  constructor
  · intro h
    obtain ⟨mark, hmark, htrim⟩ := exists_mark line.trim
    unfold ofText? at h
    generalize (dropMark ['@'] line.trim).2 = t at h htrim
    have hsplit : t = t.takeWhile isTagNameChar ++ t.dropWhile isTagNameChar :=
      List.takeWhile_append_dropWhile.symm
    have hchar : ∀ c ∈ t.takeWhile isTagNameChar, isTagNameChar c = true := fun c hc =>
      List.mem_takeWhile_imp hc
    simp only at h
    split at h
    · cases h
    · rename_i hne
      split at h
      · rename_i hrest
        obtain rfl := Option.some.inj h
        refine ⟨hne, hchar, mark, [], hmark, ?_, by simp, rfl⟩
        rwa [← hrest, ← hsplit]
      · rename_i c rest hrest
        rw [Option.ite_none_right_eq_some] at h
        obtain ⟨hc, e⟩ := h
        obtain rfl := Option.some.inj e
        refine ⟨hne, hchar, mark, c :: rest, hmark, ?_, ?_, (trim_cons_of_blank hc rest).symm⟩
        · rwa [← hrest, ← hsplit]
        · rintro _ ⟨⟩
          exact hc
  · obtain ⟨name, body⟩ := l
    rintro ⟨hne, hchar, mark, rest, hmark, htrim, hrest, hbody⟩
    simp only at hne hchar htrim hbody
    have hname : ∀ c ∈ (name ++ rest).head?, isTagNameChar c = true := by
      intro c hc
      rw [List.head?_append_of_ne_nil _ hne] at hc
      exact hchar c (List.mem_of_head? hc)
    have hend : ∀ c ∈ rest.head?, isTagNameChar c = false := fun c hc =>
      not_isTagNameChar_of_isBlank (hrest c hc)
    unfold ofText?
    simp only [htrim, dropMark_at hmark hname, takeWhile_append_run hchar hend,
      dropWhile_append_run hchar hend]
    cases rest with
    | nil =>
      rw [hbody]
      rfl
    | cons c rest =>
      rw [hbody, trim_cons_of_blank (hrest c rfl)]
      exact if_pos (hrest c rfl)

theorem Of.tight_body {line : Text} {l : TagLine} (h : l.Of line) : l.body.Tight := by
  obtain ⟨-, -, -, rest, -, -, -, hbody⟩ := h
  rw [hbody]
  exact tight_trim rest

theorem tight_append {t u : Text} (ht : t.Tight) (hu : u.Tight) (hne : t ≠ []) (hne' : u ≠ [])
    (gap : Text) : Tight (t ++ (gap ++ u)) where
  head := by
    rw [List.head?_append_of_ne_nil _ hne]
    exact ht.head
  last := by
    rw [← List.append_assoc, List.getLast?_append_of_ne_nil _ hne']
    exact hu.last

theorem tight_cons_name {name : Text} (h : ∀ c ∈ name, isTagNameChar c = true) :
    Tight ('@' :: name) :=
  tight_of_forall (List.forall_mem_cons.2
    ⟨by decide, fun c hc => not_isBlank_of_isTagNameChar (h c hc)⟩)

theorem of_append {name : Text} (hne : name ≠ []) (hchar : ∀ c ∈ name, isTagNameChar c = true)
    (body : Text) : Of ('@' :: name ++ ' ' :: body) ⟨name, body.trim⟩ := by
  have hname := tight_cons_name hchar
  refine ⟨hne, hchar, ['@'], ?_⟩
  obtain ⟨a, b, ha, hb, e⟩ := exists_trim body
  by_cases hbody : body.trim = []
  · have hblank : Blank (' ' :: body) := blank_cons.2 ⟨by decide, blank_of_trim_eq_nil hbody⟩
    refine ⟨[], .inr rfl, ?_, by simp, hbody⟩
    rw [trim_append_blank _ hblank, hname.trim_eq, List.append_nil]
    rfl
  · have htight := tight_append hname (tight_trim body) (by simp) hbody (' ' :: a)
    refine ⟨' ' :: a ++ body.trim, .inr rfl, ?_, by rintro _ ⟨⟩; decide, ?_⟩
    · calc
        trim ('@' :: name ++ ' ' :: body) =
            trim ('@' :: name ++ (' ' :: a ++ body.trim) ++ b) := by
          conv_lhs => rw [e]
          simp
        _ = '@' :: name ++ (' ' :: a ++ body.trim) := by
          rw [trim_append_blank _ hb, htight.trim_eq]
    · rw [List.cons_append, trim_cons_of_blank (by decide), trim_append_of_blank ha,
        (tight_trim body).trim_eq]

theorem of_line {name body : Text} (hne : name ≠ []) (hchar : ∀ c ∈ name, isTagNameChar c = true)
    (hbody : body.Tight) : Of (Tag.generic name (some body)).line ⟨name, body⟩ := by
  cases body with
  | nil =>
    refine ⟨hne, hchar, ['@'], [], .inr rfl, ?_, by simp, rfl⟩
    rw [List.append_nil]
    exact (tight_cons_name hchar).trim_eq
  | cons c body =>
    have hline := of_append hne hchar (c :: body)
    rwa [hbody.trim_eq] at hline

end TagLine

namespace Registry

theorem find?_builtin_iff {valid : Text → Bool} {name : Text} {f : Recogniser} :
    (builtin valid).find? name = some f ↔ ∃ k : Kind, k.name = name ∧ f = k.recogniser valid := by
  constructor
  · intro h
    obtain ⟨l₁, l₂, e, -⟩ := List.lookup_eq_some_iff.1 h
    have hmem : (name, f) ∈ (builtin valid).entries := by rw [e]; simp
    obtain ⟨k, -, hk⟩ := List.mem_map.1 hmem
    obtain ⟨rfl, rfl⟩ := Prod.mk.inj hk
    exact ⟨k, rfl, rfl⟩
  · rintro ⟨k, rfl, rfl⟩
    cases k <;> rfl

theorem create_of_missed {r : Registry} {s : Scope} {line : Text} {l : TagLine}
    (hline : l.Of line) (h : ∃ why, r.reading s l = .missed why) :
    r.create s line = .ok (.generic l.name (some l.body.dedent)) := by
  obtain ⟨why, h⟩ := h
  simp only [create, TagLine.ofText?_eq_some_iff.2 hline, h]

end Registry

end DocTag
