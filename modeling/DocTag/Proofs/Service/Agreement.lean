import DocTag.Proofs.Registry.Fallback
import DocTag.Proofs.Tag.Outer
import DocTag.Service.Standard

namespace DocTag

open Text Reading

/-- The same refusal, twice no tag, or twice the same tag, on the second occasion with its line. -/
inductive SameOutcome : Json → Json → Prop
  | refused (message : Text) : SameOutcome (.object [("error".toList, .text message)])
      (.object [("error".toList, .text message)])
  | missed (rest rest' : Members) :
      SameOutcome (.object (recognized false :: rest)) (.object (recognized false :: rest'))
  | found (rest : Members) (line : Text) : SameOutcome (.object (recognized true :: rest))
      (.object (recognized true :: rest ++ [("tag_line".toList, .text line)]))

def Call.answer (valid : Text → Bool) (settings : Settings) : Call → Json
  | author body => authorAnswer valid body
  | query q ns => q.answer valid (settings.scope ns)

namespace Service.State

theorem response_call {E : Type} {support : Support E} {st : State} {settings : Settings}
    (h : st.current support = .ok settings) (c : Call) :
    (st.call support c).response = .ok (.text (c.answer support.valid settings).write) := by
  cases c with
  | author => rfl
  | query q ns =>
    simp only [call, withSettings, h]
    rfl

end Service.State

theorem Kind.tagName (k : Kind) : k.name ≠ [] ∧ ∀ c ∈ k.name, isTagNameChar c = true := by
  cases k <;> decide

theorem Kind.isRecognized {valid : Text → Bool} {k : Kind} {s : Scope} {body : Text} {tag : Tag}
    (h : k.recogniser valid s body = .found tag) : tag.isRecognized = true := by
  cases tag with
  | generic => exact absurd h k.ne_generic
  | method | param | author => rfl

theorem recognized_inj {b b' : Bool} : recognized b = recognized b' ↔ b = b' :=
  ⟨fun h => Json.bool.inj (Prod.mk.inj h).2, fun h => h ▸ rfl⟩

theorem recognized_ne_error (b : Bool) (j : Json) : recognized b ≠ ("error".toList, j) :=
  fun h => absurd (Prod.mk.inj h).1 (by decide)

namespace SameOutcome

variable {rest : Members} {j : Json}

theorem of_found (h : SameOutcome (.object (recognized true :: rest)) j) :
    ∃ line, j = .object (recognized true :: rest ++ [("tag_line".toList, .text line)]) := by
  generalize e : Json.object (recognized true :: rest) = i at h
  cases h with
  | refused => exact absurd (List.cons.inj (Json.object.inj e)).1 (recognized_ne_error _ _)
  | missed =>
    have hfirst := recognized_inj.1 (List.cons.inj (Json.object.inj e)).1
    cases hfirst
  | found rest' line =>
    obtain rfl := (List.cons.inj (Json.object.inj e)).2
    exact ⟨line, rfl⟩

theorem of_missed (h : SameOutcome (.object (recognized false :: rest)) j) :
    ∃ rest', j = .object (recognized false :: rest') := by
  generalize e : Json.object (recognized false :: rest) = i at h
  cases h with
  | refused => exact absurd (List.cons.inj (Json.object.inj e)).1 (recognized_ne_error _ _)
  | missed _ rest' => exact ⟨rest', rfl⟩
  | found =>
    have hfirst := recognized_inj.1 (List.cons.inj (Json.object.inj e)).1
    cases hfirst

theorem of_refused {why : Fault} (h : SameOutcome why.payload j) : j = why.payload := by
  generalize e : why.payload = i at h
  cases h with
  | refused => rfl
  | missed => exact absurd (List.cons.inj (Json.object.inj e)).1.symm (recognized_ne_error _ _)
  | found => exact absurd (List.cons.inj (Json.object.inj e)).1.symm (recognized_ne_error _ _)

end SameOutcome

theorem Tag.exists_members {tag : Tag} (h : tag.isRecognized = true) :
    ∃ rest, tag.members = recognized true :: rest :=
  ⟨_, by rw [members, h]; rfl⟩

theorem Fault.payload_ne {why : Fault} {b : Bool} {rest : Members} :
    why.payload ≠ .object (recognized b :: rest) := fun e =>
  absurd (List.cons.inj (Json.object.inj e)).1.symm (recognized_ne_error _ _)

def Reading.linePayload (name body : Text) (r : Reading Tag) : Json :=
  Tag.linePayload (match r with
    | .found tag => .ok tag
    | .missed _ => .ok (.generic name (some body.dedent))
    | .refused why => .error why)

namespace Reading

variable {r : Reading Tag} {name body : Text} {rest : Members}

theorem linePayload_found {tag : Tag} (h : tag.members = recognized true :: rest) :
    (found tag).linePayload name body =
      .object (recognized true :: rest ++ [("tag_line".toList, .text tag.line)]) := by
  simp only [linePayload, Tag.linePayload, h]

theorem exists_found {line : Text} (hr : ∀ tag, r = .found tag → tag.isRecognized = true)
    (h : r.linePayload name body =
      .object (recognized true :: rest ++ [("tag_line".toList, .text line)])) :
    ∃ tag, r = .found tag ∧ tag.members = recognized true :: rest := by
  cases r with
  | found tag =>
    obtain ⟨rest', htag⟩ := Tag.exists_members (hr tag rfl)
    rw [linePayload_found htag] at h
    have hmembers := (List.append_inj' (Json.object.inj h) rfl).1
    exact ⟨tag, rfl, htag.trans hmembers⟩
  | missed =>
    have hfirst := recognized_inj.1 (List.cons.inj (Json.object.inj h)).1
    cases hfirst
  | refused => exact absurd h Fault.payload_ne

theorem exists_missed (hr : ∀ tag, r = .found tag → tag.isRecognized = true)
    (h : r.linePayload name body = .object (recognized false :: rest)) :
    ∃ why, r = .missed why := by
  cases r with
  | found tag =>
    obtain ⟨rest', htag⟩ := Tag.exists_members (hr tag rfl)
    rw [linePayload_found htag] at h
    have hfirst := recognized_inj.1 (List.cons.inj (Json.object.inj h)).1
    cases hfirst
  | missed why => exact ⟨why, rfl⟩
  | refused => exact absurd h Fault.payload_ne

theorem exists_refused {why : Fault} (hr : ∀ tag, r = .found tag → tag.isRecognized = true)
    (h : r.linePayload name body = why.payload) :
    ∃ why', r = .refused why' ∧ why.message = why'.message := by
  cases r with
  | found tag =>
    obtain ⟨rest', htag⟩ := Tag.exists_members (hr tag rfl)
    rw [linePayload_found htag] at h
    exact absurd h.symm Fault.payload_ne
  | missed => exact absurd h.symm Fault.payload_ne
  | refused why' =>
    have hmessage := (Prod.mk.inj (List.cons.inj (Json.object.inj h)).1).2
    exact ⟨why', rfl, (Json.text.inj hmessage).symm⟩

theorem rel_of_sameOutcome {r r' : Reading Tag}
    (hr : ∀ tag, r = .found tag → tag.isRecognized = true)
    (hr' : ∀ tag, r' = .found tag → tag.isRecognized = true)
    (h : SameOutcome r.payload (r'.linePayload name body)) :
    Rel (fun x y => x.members = y.members) r r' := by
  cases r with
  | found x =>
    obtain ⟨rest, hx⟩ := Tag.exists_members (hr x rfl)
    rw [payload, hx] at h
    obtain ⟨line, hline⟩ := h.of_found
    obtain ⟨y, rfl, hy⟩ := exists_found hr' hline
    exact .found (hx.trans hy.symm)
  | missed why =>
    obtain ⟨rest, hrest⟩ := SameOutcome.of_missed h
    obtain ⟨why', rfl⟩ := exists_missed hr' hrest
    exact .missed why why'
  | refused why =>
    obtain ⟨why', rfl, hmessage⟩ := exists_refused hr' (SameOutcome.of_refused h)
    exact .refused hmessage

theorem sameOutcome_linePayload_iff {r r' : Reading Tag}
    (hr : ∀ tag, r = .found tag → tag.isRecognized = true)
    (hr' : ∀ tag, r' = .found tag → tag.isRecognized = true) :
    SameOutcome r.payload (r'.linePayload name body) ↔
      Rel (fun x y => x.members = y.members) r r' := by
  refine ⟨rel_of_sameOutcome hr hr', ?_⟩
  intro h
  cases h with
  | @found x y hxy =>
    obtain ⟨rest, hx⟩ := Tag.exists_members (hr x rfl)
    rw [linePayload_found (hxy.symm.trans hx), payload, hx]
    exact .found rest _
  | missed => exact .missed _ _
  | @refused why why' h =>
    have hpayload : why.payload = why'.payload := by rw [Fault.payload, Fault.payload, h]
    rw [payload, hpayload]
    exact .refused _

end Reading

theorem Query.answer_line (valid : Text → Bool) (s : Scope) (k : Kind) {body : Text}
    (hbody : ¬ body.Blank) : Query.answer valid s (.line ('@' :: k.name ++ ' ' :: body)) =
      (k.recogniser valid s body.trim).linePayload k.name body.trim := by
  have hline := TagLine.ofText?_eq_some_iff.2 (TagLine.of_append k.tagName.1 k.tagName.2 body)
  have hread : (Registry.builtin valid).reading s ⟨k.name, body.trim⟩ =
      k.recogniser valid s body.trim := by
    have hne : body.trim ≠ [] := fun e => hbody (blank_of_trim_eq_nil e)
    obtain ⟨c, t, e⟩ := List.exists_cons_of_ne_nil hne
    simp only [Registry.reading, Registry.find?_builtin_iff.2 ⟨k, rfl, rfl⟩, e]
  simp only [answer, Registry.create, hline, hread]
  cases k.recogniser valid s body.trim <;> rfl

theorem sameOutcome_line_iff {valid : Text → Bool} {s : Scope} {k : Kind} {body : Text}
    (hbody : ¬ body.Blank) :
    SameOutcome (k.recogniser valid s body).payload
        (Query.answer valid s (.line ('@' :: k.name ++ ' ' :: body))) ↔
      Rel (fun x y => x.members = y.members) (k.recogniser valid s body)
        (k.recogniser valid s body.trim) := by
  rw [Query.answer_line valid s k hbody]
  exact sameOutcome_linePayload_iff (fun _ h => k.isRecognized h) fun _ h => k.isRecognized h

theorem Parameter.read_trim (s : Scope) (body : Text) : read s body.trim = read s body := by
  simp only [read, (tight_trim body).trim_eq]

theorem Method.description_of_members {m m' : Method}
    (h : (Tag.method m).members = (Tag.method m').members) :
    m.description.getD [] = m'.description.getD [] := by
  have hmember : some (described m.description) = some (described m'.description) :=
    congrArg (fun ms : Members => ms[7]?) h
  exact Json.text.inj (Prod.mk.inj (Option.some.inj hmember)).2

theorem Method.rel_recogniser_iff {valid : Text → Bool} {s : Scope} {body : Text}
    (hbody : ¬ body.Blank) :
    Rel (fun x y => x.members = y.members) (Kind.method.recogniser valid s body)
        (Kind.method.recogniser valid s body.trim) ↔
      (∀ c ∈ body.head?, isBlank c = false) ∨ Opens body.trim false [] body.trim ∨
        startsWord body.trim = false ∧ ∃ why, read s body.trim = .missed why := by
  have hne : body ≠ [] := by
    rintro rfl
    exact hbody blank_nil
  have htrim : body.trim ≠ [] := fun e => hbody (blank_of_trim_eq_nil e)
  obtain ⟨a, b, ha, hb, e⟩ := exists_trim body
  rw [List.append_assoc] at e
  have hlead : (∀ c ∈ body.head?, isBlank c = false) ↔ a = [] := by
    rw [e]
    cases a with
    | nil =>
      rw [List.nil_append, List.head?_append_of_ne_nil _ htrim]
      exact iff_of_true (tight_trim body).head rfl
    | cons c a =>
      refine iff_of_false (fun h => ?_) (by simp)
      have hc := h c rfl
      rw [ha c (by simp)] at hc
      cases hc
  have hread : read s body = read s (a ++ (body.trim ++ b)) := congrArg (read s) e
  simp only [Kind.recogniser, recognise, Equipment.reading_text hne,
    Equipment.reading_text htrim]
  rw [Rel.map_iff, hlead, hread]
  refine rel_read_around_iff ?_ ?_ ha hb (tight_trim body) htrim
  · exact fun m => rfl
  · exact fun m m' => description_of_members

namespace Service.State

/-- A body is read in the same way on a line of its own. For a parameter this is always so. For a
    method and an author it is so unless blanks around the body are in the way. -/
theorem call_line_iff {E : Type} {support : Support E} {st : State} {settings : Settings}
    (h : st.current support = .ok settings) {body : Text} (hbody : ¬ body.Blank)
    (ns : Option Text) :
    let s := settings.scope ns
    let told : Call → Json := Call.answer support.valid settings
    let line (start : String) : Json := told (.query (.line (start.toList ++ body)) ns)
    (∀ c, (st.call support c).response = .ok (.text (told c).write)) ∧
    SameOutcome (told (.query (.param (some body)) ns)) (line "@param ") ∧
    (SameOutcome (told (.query (.method (some body)) ns)) (line "@method ") ↔
      (∀ c ∈ body.head?, isBlank c = false) ∨ Method.Opens body.trim false [] body.trim ∨
        Method.startsWord body.trim = false ∧ ∃ why, Method.read s body.trim = .missed why) ∧
    (SameOutcome (told (.author body)) (line "@author ") ↔
      '<' ∉ body ∨ (∀ c ∈ (Author.dropNewline body).getLast?, isBlank c = false) ∨
        ∃ why, Author.read support.valid body.trim = .missed why) := by
  intro s told line
  have hne : body ≠ [] := by
    rintro rfl
    exact hbody blank_nil
  have htrim : body.trim ≠ [] := fun e => hbody (blank_of_trim_eq_nil e)
  refine ⟨response_call h, ?_, ?_, ?_⟩
  · refine (sameOutcome_line_iff (k := .param) hbody).2 ?_
    have hread : Kind.param.recogniser support.valid s body =
        Kind.param.recogniser support.valid s body.trim := by
      simp only [Kind.recogniser, Parameter.recognise, Equipment.reading_text hne,
        Equipment.reading_text htrim, Parameter.read_trim]
    exact (Rel.of_eq hread).mono fun _ _ e => congrArg Tag.members e
  · exact (sameOutcome_line_iff (k := .method) hbody).trans (Method.rel_recogniser_iff hbody)
  · refine (sameOutcome_line_iff (s := s) (k := .author) hbody).trans ?_
    simp only [Kind.recogniser]
    rw [Rel.map_iff]
    refine Author.rel_read_trim_iff support.valid ?_ body
    exact fun a => rfl

theorem call_line_iff_outer :
    let support : Support Unit :=
      ⟨fun _ _ => .error (), (· == "jane@example.com".toList), Tool.parameters?⟩
    let st : State := { settings := some {} }
    let told : Call → Json := Call.answer support.valid {}
    let method := " int foo()".toList
    let author := "Jane <jane@example.com> ".toList
    st.current support = .ok {} ∧
    (¬ SameOutcome (told (.query (.method (some method)) none))
      (told (.query (.line ("@method ".toList ++ method)) none))) ∧
    ¬ SameOutcome (told (.author author))
      (told (.query (.line ("@author ".toList ++ author)) none)) := by
  intro support st told method author
  have hst : st.current support = .ok {} := rfl
  have hmethod : ¬ Blank method := by decide
  have hauthor : ¬ Blank author := by decide
  obtain ⟨-, -, hmethod, -⟩ := call_line_iff hst hmethod none
  obtain ⟨-, -, -, hauthor⟩ := call_line_iff hst hauthor none
  refine ⟨hst, fun h => ?_, fun h => ?_⟩
  · rcases hmethod.1 h with h | h | ⟨h, -⟩
    · exact absurd (h ' ' rfl) (by decide)
    · exact absurd (Method.Signature.ofBody?_of_opens h) (by decide +kernel)
    · exact absurd h (by decide +kernel)
  · rcases hauthor.1 h with h | h | h
    · exact absurd h (by decide)
    · have hlast : (Author.dropNewline author).getLast? = some ' ' := by decide +kernel
      exact absurd (h ' ' hlast) (by decide)
    · exact absurd ((Author.exists_missed_iff _).1 h) (by decide +kernel)

end Service.State

end DocTag
