import DocTag.Proofs.Tag.Parameter
import DocTag.Proofs.Tag.Signature
import DocTag.Proofs.Ty.Read
import Mathlib.Data.List.Forall2

namespace DocTag

open Text

namespace Method

structure Ending where
  name : Text
  parameters : List Parameter.Layout
  -- What stands between the parentheses when there are no parameters.
  filling : Text
  (descriptionGap description : Text)
  name_ne_nil : name ≠ []
  name_word : ∀ c ∈ name, isWord c = true
  filling_blank : filling.Blank
  descriptionGap_blank : descriptionGap.Blank
  description_dedent : description.dedent = description

namespace Ending

def arguments (l : Ending) : Text :=
  if l.parameters.isEmpty then l.filling
  else [','].intercalate (l.parameters.map Parameter.Layout.text)

def tail (l : Ending) : Text :=
  l.name ++ ('(' :: l.arguments ++ ')' :: (l.descriptionGap ++ l.description))

def method (l : Ending) (isStatic : Bool) (returns : Ty) (types : List Ty) : Method where
  name := l.name
  returns := returns
  isStatic := isStatic
  description := some l.description
  parameters := List.zipWith Parameter.Layout.parameter l.parameters types
  name_ne_nil := l.name_ne_nil

theorem startsWord_tail (l : Ending) : startsWord l.tail = true := by
  obtain ⟨c, name, hname⟩ := List.exists_cons_of_ne_nil l.name_ne_nil
  refine startsWord_iff.2 ⟨c, _, by rw [tail, hname, List.cons_append], ?_⟩
  exact l.name_word c (by simp [hname])

theorem arguments_eq (l : Ending) :
    l.arguments.arguments = l.parameters.map Parameter.Layout.core := by
  unfold arguments
  cases hps : l.parameters with
  | nil => simp [Text.arguments, trim_of_blank l.filling_blank]
  | cons p ps =>
    have hno : ∀ t ∈ (p :: ps).map Parameter.Layout.text, ',' ∉ t := by
      intro t ht
      obtain ⟨q, -, rfl⟩ := List.mem_map.1 ht
      exact q.not_mem_text.1
    have hsplit := List.splitOn_intercalate ',' hno (by simp)
    have hne : trim ([','].intercalate ((p :: ps).map Parameter.Layout.text)) ≠ [] := by
      intro e
      obtain ⟨c, head, hhead⟩ := List.exists_cons_of_ne_nil p.head_ne_nil
      have hc : c ∈ p.text := by simp [Parameter.Layout.text, Parameter.Layout.core, hhead]
      have hblank := blank_of_trim_eq_nil e c (mem_intercalate_of_mem (by simp) hc)
      rw [(p.head_char c (by simp [hhead])).1] at hblank
      cases hblank
    rw [if_neg (by simp), Text.arguments, if_neg (by simpa using hne), hsplit, List.map_map]
    apply List.map_congr_left
    intro q _
    exact q.trim_text

theorem not_mem_arguments (l : Ending) : ')' ∉ l.arguments := by
  unfold arguments
  split
  · intro h
    exact absurd (l.filling_blank _ h) (by decide)
  · intro h
    rcases mem_of_mem_intercalate h with h | ⟨t, ht, h⟩
    · exact absurd h (by decide)
    · obtain ⟨p, -, rfl⟩ := List.mem_map.1 ht
      exact p.not_mem_text.2 h

theorem decomposes (l : Ending) {body token : Text} {isStatic : Bool}
    (h : Opens body isStatic token l.tail) :
    Decomposes body ⟨isStatic, token, l.name, l.arguments, l.description⟩ := by
  have htight : l.description.Tight := by
    rw [← l.description_dedent]
    exact tight_dedent _
  refine .intro h rfl l.name_ne_nil l.name_word ?_ (.arguments l.not_mem_arguments) ?_
  · rintro _ ⟨⟩
    decide
  · exact trimStart_append l.descriptionGap_blank htight.head

theorem read_arguments (l : Ending) {s : Scope} {types : List Ty}
    (h : List.Forall₂ (fun p t => Ty.resolve s p.head = .ok t) l.parameters types) :
    List.Forall₂ (fun t p => Parameter.read s t = .found p) l.arguments.arguments
      (List.zipWith Parameter.Layout.parameter l.parameters types) := by
  rw [l.arguments_eq]
  generalize l.parameters = ps at h
  induction h with
  | nil => exact .nil
  | @cons p t ps ts hp _ ih => exact .cons (p.read_core hp) ih

theorem read_of_opens (l : Ending) {s : Scope} {body token : Text} {isStatic : Bool} {returns : Ty}
    {types : List Ty} (hopens : Opens body isStatic token l.tail)
    (hreturns : Ty.resolve s (if token.isEmpty then "void".toList else token) = .ok returns)
    (htypes : List.Forall₂ (fun p t => Ty.resolve s p.head = .ok t) l.parameters types) :
    read s body = .found (l.method isStatic returns types) := by
  refine read_eq_found_iff.2 ⟨_, l.decomposes hopens, rfl, rfl, ?_, hreturns,
    l.read_arguments htypes⟩
  rw [l.description_dedent]
  rfl

end Ending

/-- A method as it may be written. The proviso on `returns` is there because the word `static`
    before a name is a mark and not a type. -/
structure Layout extends Ending where
  isStatic : Bool
  (staticGap returns returnsGap : Text)
  staticGap_ne_nil : staticGap ≠ []
  staticGap_blank : staticGap.Blank
  returns_token : ReturnToken returns
  returns_ne_static : isStatic = false → returns ≠ "static".toList
  returnsGap_ne_nil : returnsGap ≠ []
  returnsGap_blank : returnsGap.Blank

namespace Layout

def text (l : Layout) : Text :=
  (if l.isStatic then "static".toList ++ l.staticGap else []) ++
    (l.returns ++ l.returnsGap ++ l.tail)

theorem carries (l : Layout) : Carries (l.returns ++ l.returnsGap ++ l.tail) l.returns l.tail :=
  .intro (.inr l.returns_token) l.returnsGap_ne_nil l.returnsGap_blank l.startsWord_tail

theorem opens (l : Layout) : Opens l.text l.isStatic l.returns l.tail := by
  unfold text
  cases hstatic : l.isStatic with
  | true =>
    rw [if_pos rfl]
    refine .static (.intro l.staticGap_ne_nil l.staticGap_blank ?_ (.inr ⟨_, _, l.carries⟩))
      (.typed l.carries)
    intro c hc
    rw [List.append_assoc, List.head?_append_of_ne_nil _ l.returns_token.ne_nil] at hc
    exact l.returns_token.not_isBlank c (List.mem_of_head? hc)
  | false =>
    rw [if_neg (by simp), List.nil_append]
    refine .plain ?_ (.typed l.carries)
    intro rest hmarked
    generalize hbody : l.returns ++ l.returnsGap ++ l.tail = body at hmarked
    cases hmarked with
    | @intro gap _ hne hgap =>
      rw [List.append_assoc, List.append_assoc] at hbody
      exact l.returns_ne_static hstatic (eq_of_append_eq l.returns_token.not_isBlank (by decide)
        (l.returnsGap_blank.head?_append l.returnsGap_ne_nil _) (hgap.head?_append hne _) hbody)

theorem text_ne_nil (l : Layout) : l.text ≠ [] := by
  intro e
  obtain ⟨-, hrest⟩ := List.append_eq_nil_iff.1 e
  obtain ⟨hreturns, -⟩ := List.append_eq_nil_iff.1 hrest
  exact l.returns_token.ne_nil (List.append_eq_nil_iff.1 hreturns).1

theorem read_text (l : Layout) {s : Scope} {returns : Ty} {types : List Ty}
    (hreturns : Ty.resolve s l.returns = .ok returns)
    (htypes : List.Forall₂ (fun p t => Ty.resolve s p.head = .ok t) l.parameters types) :
    read s l.text = .found (l.method l.isStatic returns types) := by
  have hne : l.returns.isEmpty = false := by simpa using l.returns_token.ne_nil
  refine l.read_of_opens l.opens ?_ htypes
  rwa [hne]

end Layout

/-- A method is recognised in every layout, with the parts that were laid out. -/
theorem recognise_layout (l : Layout) {s : Scope} {returns : Ty} {types : List Ty}
    (hreturns : Ty.resolve s l.returns = .ok returns)
    (htypes : List.Forall₂ (fun p t => Ty.resolve s p.head = .ok t) l.parameters types) :
    recognise {} s (some l.text) = .found
      { name := l.name
        returns
        isStatic := l.isStatic
        description := some l.description
        parameters := List.zipWith
          (fun p type => { name := p.name, type, byReference := p.byReference,
                           variadic := p.variadic, description := some [] })
          l.parameters types
        name_ne_nil := l.name_ne_nil } := by
  rw [recognise, Equipment.reading_text l.text_ne_nil]
  exact l.read_text hreturns htypes

theorem recognise_layout_lines :
    let s : Scope := ⟨"App".toList, []⟩
    recognise {} s (some
        "static\tUser[]|NULL\n find(?int &$id ,\n String ...$rest ) Finds.\nAll".toList) = .found
      { name := "find".toList
        returns := .compound [.array (.object "\\App\\User".toList), .keyword .null]
        isStatic := true
        description := some "Finds.\nAll".toList
        parameters := [⟨"id".toList, .nullable (.keyword .int), true, false, some []⟩,
          ⟨"rest".toList, .keyword .string, false, true, some []⟩] } := by
  intro s
  let id : Parameter.Layout :=
    { before := [], head := "?int".toList, gap := [' '], byReference := true, variadic := false
      name := "id".toList, after := [' '], before_blank := blank_nil, head_ne_nil := by decide
      head_char := by decide, head_lead := by decide, gap_ne_nil := by decide
      gap_blank := by decide, name_ne_nil := by decide, name_word := by decide
      after_blank := by decide }
  let rest : Parameter.Layout :=
    { before := "\n ".toList, head := "String".toList, gap := [' '], byReference := false
      variadic := true, name := "rest".toList, after := [' ']
      before_blank := by decide, head_ne_nil := by decide, head_char := by decide
      head_lead := by decide, gap_ne_nil := by decide, gap_blank := by decide
      name_ne_nil := by decide, name_word := by decide, after_blank := by decide }
  let l : Layout :=
    { isStatic := true, staticGap := ['\t'], returns := "User[]|NULL".toList
      returnsGap := "\n ".toList, name := "find".toList, parameters := [id, rest], filling := []
      descriptionGap := [' '], description := "Finds.\nAll".toList
      staticGap_ne_nil := by decide, staticGap_blank := by decide
      returns_token := (isReturnToken_iff.1 (by decide)).resolve_left (by decide)
      returns_ne_static := by decide, returnsGap_ne_nil := by decide
      returnsGap_blank := by decide, name_ne_nil := by decide
      name_word := by decide, filling_blank := blank_nil
      descriptionGap_blank := by decide, description_dedent := by decide +kernel }
  have hreturns : Ty.resolve s l.returns = .ok
      (.compound [.array (.object "\\App\\User".toList), .keyword .null]) :=
    Ty.resolve_eq_ok.2 ⟨.compound [.array (.object "User".toList), .keyword .null],
      by decide +kernel, by decide +kernel⟩
  have hid : Ty.resolve s id.head = .ok (.nullable (.keyword .int)) :=
    Ty.resolve_eq_ok.2 ⟨.nullable (.keyword .int), by decide +kernel, rfl⟩
  have hrest : Ty.resolve s rest.head = .ok (.keyword .string) :=
    Ty.resolve_eq_ok.2 ⟨.keyword .string, by decide +kernel, rfl⟩
  have htext : l.text =
      "static\tUser[]|NULL\n find(?int &$id ,\n String ...$rest ) Finds.\nAll".toList := by
    decide +kernel
  rw [← htext]
  exact recognise_layout l hreturns (.cons hid (.cons hrest .nil))

end Method

end DocTag
