import DocTag.Proofs.Registry.Line
import DocTag.Proofs.Tag.Author
import DocTag.Proofs.Tag.Body
import DocTag.Proofs.Tag.Layout
import DocTag.Proofs.Tag.Spacing

namespace DocTag

open Text Reading

theorem Text.Tight.dedent_dedent {t : Text} (h : t.Tight) : t.dedent.dedent = t.dedent :=
  (dedented_dedent h.head).dedent_eq

theorem Text.Tight.respaced_dedent {t : Text} (h : t.Tight) : Respaced t t.dedent := by
  have hspaced := Text.respaced_dedent t
  rwa [h.trim_eq] at hspaced

theorem Author.exists_missed_dedent {valid : Text → Bool} {body : Text} (hbody : body.Tight)
    (h : ∃ why, read valid body = .missed why) :
    ∃ why, read valid body.dedent = .missed why := by
  rw [exists_missed_iff, dropNewline_of_tight hbody] at h
  rw [exists_missed_iff, dropNewline_of_tight (tight_dedent body)]
  exact split?_eq_none_of_respaced hbody.respaced_dedent h

theorem Kind.exists_missed_dedent {valid : Text → Bool} {k : Kind} {s : Scope} {body : Text}
    (hbody : body.Tight) (h : ∃ why, k.recogniser valid s body = .missed why) (s' : Scope) :
    ∃ why, k.recogniser valid s' body.dedent = .missed why := by
  have hspaced := hbody.respaced_dedent
  have hne : body ≠ [] := by
    rintro rfl
    obtain ⟨why, h⟩ := h
    cases k <;> cases h
  have hne' : body.dedent ≠ [] := fun e => hne (hspaced.eq_nil_iff.2 e)
  -- The scope is the same in both readings but for a last step from `s` to `s'`.
  refine ((k.drafted_recogniser valid hne').rel s s').exists_missed ?_
  cases k with
  | method =>
    rw [Kind.recogniser, exists_map_eq_missed, Method.recognise, Equipment.reading_text hne] at h
    rw [Kind.recogniser, exists_map_eq_missed, Method.recognise, Equipment.reading_text hne']
    exact (Method.read_of_respaced s hspaced).exists_missed h
  | param =>
    rw [Kind.recogniser, exists_map_eq_missed, Parameter.recognise, Equipment.reading_text hne] at h
    rw [Kind.recogniser, exists_map_eq_missed, Parameter.recognise, Equipment.reading_text hne']
    exact (Parameter.read_of_respaced s hspaced).exists_missed h
  | author =>
    rw [Kind.recogniser, exists_map_eq_missed] at h ⊢
    exact Author.exists_missed_dedent hbody h

theorem Kind.ne_generic {valid : Text → Bool} {k : Kind} {s : Scope} {body name : Text}
    {description : Option Text} :
    k.recogniser valid s body ≠ .found (.generic name description) := by
  intro h
  cases k with
  | method =>
    obtain ⟨m, -, e⟩ := map_eq_found.1 h
    cases e
  | param =>
    obtain ⟨p, -, e⟩ := map_eq_found.1 h
    cases e
  | author =>
    obtain ⟨a, -, e⟩ := map_eq_found.1 h
    cases e

namespace Registry

variable {valid : Text → Bool}

theorem reading_builtin_ne_generic {s : Scope} {l : TagLine} {name : Text}
    {description : Option Text} :
    (builtin valid).reading s l ≠ .found (.generic name description) := by
  unfold reading
  split
  · rename_i hfind hbody
    obtain ⟨k, -, rfl⟩ := find?_builtin_iff.1 hfind
    exact k.ne_generic
  · simp

theorem create_eq_generic {s : Scope} {line name : Text} {description : Option Text}
    (h : (builtin valid).create s line = .ok (.generic name description)) :
    ∃ body, TagLine.Of line ⟨name, body⟩ ∧ description = some body.dedent ∧
      ∃ why, (builtin valid).reading s ⟨name, body⟩ = .missed why := by
  unfold create at h
  split at h
  · cases h
  · rename_i l hline
    rw [TagLine.ofText?_eq_some_iff] at hline
    split at h
    · rename_i tag hread
      obtain rfl := Except.ok.inj h
      exact absurd hread reading_builtin_ne_generic
    · rename_i why hread
      obtain ⟨rfl, rfl⟩ := Tag.generic.inj (Except.ok.inj h)
      exact ⟨l.body, hline, rfl, why, hread⟩
    · cases h

theorem exists_missed_dedent {s : Scope} {name body : Text} (hbody : body.Tight)
    (h : ∃ why, (builtin valid).reading s ⟨name, body⟩ = .missed why) (s' : Scope) :
    ∃ why, (builtin valid).reading s' ⟨name, body.dedent⟩ = .missed why := by
  unfold reading at h ⊢
  simp only at h ⊢
  cases hfind : (builtin valid).find? name with
  | none => exact ⟨.unexplained, rfl⟩
  | some f =>
    obtain ⟨k, -, rfl⟩ := find?_builtin_iff.1 hfind
    rw [hfind] at h
    cases body with
    | nil => exact ⟨.unexplained, rfl⟩
    | cons c t =>
      have hmissed := k.exists_missed_dedent hbody h s'
      cases hdedent : dedent (c :: t) with
      | nil => exact ⟨.unexplained, rfl⟩
      | cons d u => rwa [hdedent] at hmissed

/-- A generic tag is made again from its own line, in every scope. In particular, what a recogniser
    misses it misses without indentation too. -/
theorem create_line_generic (valid : Text → Bool) :
    (∀ s s' line name description,
      (builtin valid).create s line = .ok (.generic name description) →
      (builtin valid).create s' (Tag.generic name description).line =
        .ok (.generic name description)) ∧
    ∀ (k : Kind) s s' (body : Text), body.Tight →
      (∃ why, k.recogniser valid s body = .missed why) →
      ∃ why, k.recogniser valid s' body.dedent = .missed why := by
  refine ⟨?_, fun k s s' body hbody h => k.exists_missed_dedent hbody h s'⟩
  intro s s' line name description h
  obtain ⟨body, hline, rfl, hmissed⟩ := create_eq_generic h
  have hbody : body.Tight := hline.tight_body
  have hreread := TagLine.of_line hline.name_ne_nil hline.name_char (tight_dedent body)
  rw [create_of_missed hreread (exists_missed_dedent hbody hmissed s')]
  simp only [hbody.dedent_dedent]

theorem create_line_generic_map :
    let valid : Text → Bool := fun _ => true
    let r := builtin valid
    let s : Scope := ⟨"App".toList, []⟩
    let body : Text := "map(array<int, string> $m)\n      Maps.\n        All.".toList
    let description : Text := "map(array<int, string> $m)\nMaps.\n  All.".toList
    let tag : Tag := .generic "method".toList (some description)
    (r.create s ("@method ".toList ++ body) = .ok tag ∧ r.create {} tag.line = .ok tag) ∧
      (∃ why, Kind.method.recogniser valid s body = .missed why) ∧
        ∃ why, Kind.method.recogniser valid {} description = .missed why := by
  intro valid r s body description tag
  obtain ⟨hline, hmissed⟩ := create_line_generic valid
  have htag : r.create s ("@method ".toList ++ body) = .ok tag := by decide +kernel
  have hbody : ∃ why, Kind.method.recogniser valid s body = .missed why :=
    ⟨.badArgument "array<int".toList "map".toList (.noVariable []), by decide +kernel⟩
  refine ⟨⟨htag, hline s {} _ _ _ htag⟩, hbody, ?_⟩
  have hdedent : body.dedent = description := by decide +kernel
  have htight : body.Tight := by
    have htrim : body.trim = body := by decide +kernel
    rw [← htrim]
    exact tight_trim body
  rw [← hdedent]
  exact hmissed .method s {} body htight hbody

end Registry

end DocTag
