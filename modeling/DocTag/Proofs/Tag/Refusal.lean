import DocTag.Proofs.Tag.Body
import DocTag.Proofs.Tag.Normal
import DocTag.Proofs.Ty.Hollow
import DocTag.Registry

/-!
When a body is refused rather than missed. Apart from bodies that cannot be read at all, these are
the bodies with a type that is hollow: a return type of which an alternative is empty, or a word in
front of a variable that the resolver of types does not take.
-/

namespace DocTag

open Text

namespace Parameter

structure TypeAt (t word : Text) : Prop where
  ne_nil : word ≠ []
  solid : ∀ c ∈ word, isBlank c = false
  not_variable : startsVariable word = false
  cut : ∃ rest : Text, t = word ++ rest ∧ ∀ c ∈ rest.head?, isBlank c = true

theorem TypeAt.head? {t word : Text} (h : TypeAt t word) : ∀ c ∈ t.head?, isBlank c = false := by
  obtain ⟨rest, rfl, -⟩ := h.cut
  intro c hc
  rw [List.head?_append_of_ne_nil _ h.ne_nil] at hc
  exact h.solid c (List.mem_of_head? hc)

theorem typeAt_iff {t word : Text} : TypeAt t word ↔
    word ≠ [] ∧ startsVariable word = false ∧ t.takeWhile (!isBlank ·) = word := by
  constructor
  · rintro ⟨hne, hsolid, hvariable, rest, rfl, hrest⟩
    exact ⟨hne, hvariable, takeWhile_append_run (by simpa using hsolid) (by simpa using hrest)⟩
  · rintro ⟨hne, hvariable, rfl⟩
    refine ⟨hne, fun c hc => by simpa using List.mem_takeWhile_imp hc, hvariable,
      t.dropWhile (!isBlank ·), List.takeWhile_append_dropWhile.symm, ?_⟩
    intro c hc
    simpa using head?_dropWhile c hc

inductive TypedBy : Text → Text → Prop
  | plain {fragment word : Text} : ¬ ellipsis <+: fragment.trim → TypeAt fragment.trim word →
      TypedBy fragment word
  | marked {fragment gap t word : Text} : fragment.trim = ellipsis ++ (gap ++ t) → gap.Blank →
      TypeAt t word → TypedBy fragment word

/-- A fragment with a type that is none. -/
def Hollow (fragment : Text) : Prop := ∃ word, TypedBy fragment word ∧ Ty.Hollow word

theorem readType_eq_error_iff {s : Scope} {t : Text} {why : Fault} : readType s t = .error why ↔
    startsVariable (t.takeWhile (!isBlank ·)) = false ∧
      Ty.resolve s (t.takeWhile (!isBlank ·)) = .error why := by
  unfold readType
  simp only
  split
  · rename_i hvariable
    simp [hvariable]
  · rename_i hvariable
    cases Ty.resolve s (t.takeWhile (!isBlank ·)) <;> simp [hvariable]

theorem readMarked_eq_refused_iff {s : Scope} {leading : Bool} {t : Text} {why : Fault}
    (ht : ∀ c ∈ t.head?, isBlank c = false) : readMarked s leading t = .refused why ↔
      why = .emptyType ∧ ∃ word, TypeAt t word ∧ Ty.Hollow word := by
  have hrefused : readMarked s leading t = .refused why ↔
      t ≠ [] ∧ readType s t = .error why := by
    unfold readMarked
    split
    · simp
    · rename_i hne
      rw [and_iff_right hne]
      split
      · rename_i e
        simp [e]
      · rename_i e
        split <;> simp [e]
  have hword : t ≠ [] ↔ t.takeWhile (!isBlank ·) ≠ [] := by
    cases t with
    | nil => simp
    | cons c t => simp [ht c rfl]
  rw [hrefused, readType_eq_error_iff, Ty.resolve_eq_error_iff, hword]
  constructor
  · rintro ⟨hne, hvariable, hwhy, hhollow⟩
    exact ⟨hwhy, _, typeAt_iff.2 ⟨hne, hvariable, rfl⟩, hhollow⟩
  · rintro ⟨hwhy, word, hword, hhollow⟩
    obtain ⟨hne, hvariable, rfl⟩ := typeAt_iff.1 hword
    exact ⟨hne, hvariable, hwhy, hhollow⟩

theorem read_eq_refused_iff {s : Scope} {fragment : Text} {why : Fault} :
    read s fragment = .refused why ↔ why = .emptyType ∧ Hollow fragment := by
  unfold read
  split
  · rename_i rest hrest
    have hrest := (List.isPrefixOf?_eq_some_iff_append_eq.1 hrest).symm
    rw [readMarked_eq_refused_iff (head?_trimStart rest)]
    refine and_congr_right fun _ => exists_congr fun word => and_congr_left fun _ => ?_
    constructor
    · intro h
      refine .marked ?_ (blank_takeWhile rest) h
      rw [hrest, trimStart, List.takeWhile_append_dropWhile]
    · intro h
      cases h with
      | plain hno => exact absurd ⟨rest, hrest.symm⟩ hno
      | @marked gap t _ htrim hgap ht =>
        have hsplit : rest = gap ++ t := List.append_cancel_left (hrest.symm.trans htrim)
        rwa [hsplit, trimStart_append hgap ht.head?]
  · rename_i hnone
    rw [isPrefixOf?_eq_none] at hnone
    rw [readMarked_eq_refused_iff (tight_trim fragment).head]
    refine and_congr_right fun _ => exists_congr fun word => and_congr_left fun _ => ?_
    constructor
    · exact .plain hnone
    · intro h
      cases h with
      | plain _ ht => exact ht
      | @marked gap t _ htrim => exact absurd ⟨gap ++ t, htrim.symm⟩ hnone

theorem Hollow.read_eq {fragment : Text} (h : Hollow fragment) (s : Scope) :
    read s fragment = .refused .emptyType := read_eq_refused_iff.2 ⟨rfl, h⟩

theorem Hollow.ne_nil {fragment : Text} (h : Hollow fragment) : fragment ≠ [] := by
  rintro rfl
  obtain ⟨word, hword, -⟩ := h
  cases hword with
  | plain _ h =>
    obtain ⟨rest, e, -⟩ := h.cut
    exact h.ne_nil (List.append_eq_nil_iff.1 e.symm).1
  | marked e => cases e

end Parameter

namespace Method

inductive HollowArguments (s : Scope) : List Text → Prop
  | here {t : Text} {rest : List Text} : Parameter.Hollow t → HollowArguments s (t :: rest)
  | later {t : Text} {rest : List Text} {p : Parameter} : Parameter.read s t = .found p →
      HollowArguments s rest → HollowArguments s (t :: rest)

theorem readArguments_eq_refused_iff {s : Scope} {method : Text} {fragments : List Text}
    {why : Fault} : readArguments s method fragments = .refused why ↔
      why = .emptyType ∧ HollowArguments s fragments := by
  induction fragments with
  | nil =>
    simp only [readArguments, reduceCtorEq, false_iff]
    rintro ⟨-, ⟨⟩⟩
  | cons t rest ih =>
    unfold readArguments
    cases ht : Parameter.read s t with
    | refused why' =>
      obtain ⟨rfl, hhollow⟩ := Parameter.read_eq_refused_iff.1 ht
      simp [HollowArguments.here hhollow, eq_comm]
    | missed why' =>
      simp only [reduceCtorEq, false_iff]
      rintro ⟨-, hhollow | ⟨hfound, -⟩⟩
      · rw [hhollow.read_eq s] at ht
        cases ht
      · rw [ht] at hfound
        cases hfound
    | found p =>
      simp only [Reading.map_eq_refused, ih]
      refine and_congr_right fun _ => ⟨.later ht, ?_⟩
      rintro (hhollow | ⟨-, hrest⟩)
      · rw [hhollow.read_eq s] at ht
        cases ht
      · exact hrest

/-- A body with a return type of which an alternative is empty, or with such arguments. -/
def Hollow (s : Scope) (body : Text) : Prop :=
  ∃ sig, Decomposes body sig ∧
    ((sig.returns ≠ [] ∧ ∃ piece ∈ sig.returns.splitOn '|', Pairs piece) ∨
      HollowArguments s sig.arguments.arguments)

theorem ReturnToken.isFlat {token : Text} (h : ReturnToken token) : ∀ c ∈ token, Ty.IsFlat c := by
  intro c hc
  rcases h.mem hc with hc | rfl | rfl | rfl
  · simp only [isTypeChar, Bool.or_eq_true, beq_iff_eq] at hc
    rcases hc with (hc | rfl) | rfl
    · have hplain := isPlain_of_isNameChar (.inl hc)
      refine ⟨hplain.1, bracketStep_of_not_isTypeMark hplain.2, ?_⟩
      rintro rfl
      exact absurd hplain.2 (by decide)
    all_goals decide
  all_goals decide

theorem hollow_returns_iff {token : Text} (h : token = [] ∨ ReturnToken token) :
    Ty.Hollow (if token.isEmpty then "void".toList else token) ↔
      token ≠ [] ∧ ∃ piece ∈ token.splitOn '|', Pairs piece := by
  rcases h with rfl | h
  · have hvoid : ¬ Ty.Hollow "void".toList := by decide +kernel
    exact iff_of_false hvoid fun h => h.1 rfl
  · rw [if_neg (by simpa using h.ne_nil), Ty.hollow_iff_of_flat h.isFlat, and_iff_right h.ne_nil]

theorem Decomposes.hollow_iff {s : Scope} {body : Text} {sig : Signature}
    (h : Decomposes body sig) : Hollow s body ↔
      Ty.Hollow (if sig.returns.isEmpty then "void".toList else sig.returns) ∨
        HollowArguments s sig.arguments.arguments := by
  have hbody := Signature.ofBody?_eq_some_iff.2 h
  have htoken : sig.returns = [] ∨ ReturnToken sig.returns := by
    obtain ⟨hopens, -⟩ := h
    exact hopens.token
  rw [hollow_returns_iff htoken]
  constructor
  · rintro ⟨sig', hsig', hhollow⟩
    rw [Signature.ofBody?_eq_some_iff.2 hsig'] at hbody
    obtain rfl := Option.some.inj hbody
    exact hhollow
  · exact fun hhollow => ⟨sig, h, hhollow⟩

theorem read_eq_refused_iff {s : Scope} {body : Text} {why : Fault} :
    read s body = .refused why ↔ why = .emptyType ∧ Hollow s body := by
  unfold read
  split
  · rename_i hnone
    simp only [reduceCtorEq, false_iff]
    rintro ⟨-, sig, hsig, -⟩
    rw [Signature.ofBody?_eq_some_iff.2 hsig] at hnone
    cases hnone
  · rename_i sig hbody
    rw [(Signature.ofBody?_eq_some_iff.1 hbody).hollow_iff]
    simp only
    split
    · rename_i why' herror
      obtain ⟨rfl, hreturns⟩ := Ty.resolve_eq_error_iff.1 herror
      rw [and_iff_left (.inl hreturns)]
      exact ⟨fun h => (Reading.refused.inj h).symm, fun h => congrArg _ h.symm⟩
    · rename_i type hok
      have hreturns : ¬ Ty.Hollow (if sig.returns.isEmpty then "void".toList else sig.returns) := by
        intro h
        rw [Ty.resolve_eq_error_iff.2 ⟨rfl, h⟩] at hok
        cases hok
      rw [Reading.map_eq_refused, readArguments_eq_refused_iff, or_iff_right hreturns]

theorem Hollow.ne_nil {s : Scope} {body : Text} (h : Hollow s body) : body ≠ [] := by
  rintro rfl
  obtain ⟨sig, hsig, -⟩ := h
  have hnone : Signature.ofBody? [] = none := rfl
  rw [Signature.ofBody?_eq_some_iff.2 hsig] at hnone
  cases hnone

end Method

def Equipment.Admits (e : Equipment) (body : Option Text) : Prop :=
  (∃ t ∈ body, t ≠ []) ∧ e.resolver = true ∧ e.descriptions = true

theorem Equipment.reading_eq_refused_iff {α : Type} {e : Equipment} {kind : Kind}
    {body : Option Text} {read : Text → Reading α} :
    (∃ why, e.reading kind body read = .refused why) ↔
      ¬ e.Admits body ∨ ∃ t ∈ body, ∃ why, read t = .refused why := by
  obtain ⟨resolver, descriptions⟩ := e
  match body with
  | none => simp [reading, Equipment.admit, Admits]
  | some [] => simp [reading, Equipment.admit, Admits]
  | some (c :: t) =>
    cases resolver <;> cases descriptions <;> simp [reading, Equipment.admit, Admits]

theorem Registry.create_eq_error_iff {r : Registry} {s : Scope} {line : Text} {l : TagLine}
    {f : Recogniser} {why : Fault} (hline : TagLine.ofText? line = some l)
    (hfind : r.find? l.name = some f) :
    r.create s line = .error why ↔ l.body ≠ [] ∧ f s l.body = .refused why := by
  have hcreate : r.create s line = .error why ↔ r.reading s l = .refused why := by
    unfold create
    rw [hline]
    simp only
    cases r.reading s l <;> simp
  rw [hcreate, reading, hfind]
  cases l.body <;> simp

/-- A body is refused exactly if the recogniser cannot start or the body has a hollow type. So a
    line with a hollow type is the only one of its name that no tag is made of. -/
theorem recognise_refused_iff (s : Scope) :
    (∀ (e : Equipment) (body : Option Text),
      (∃ why, Method.recognise e s body = .refused why) ↔
        ¬ e.Admits body ∨ ∃ t ∈ body, Method.Hollow s t) ∧
    (∀ (e : Equipment) (body : Option Text),
      (∃ why, Parameter.recognise e s body = .refused why) ↔
        ¬ e.Admits body ∨ ∃ t ∈ body, Parameter.Hollow t) ∧
    ∀ (valid : Text → Bool) (line : Text) (l : TagLine) (why : Fault),
      TagLine.ofText? line = some l →
      (l.name = Kind.method.name → ((Registry.builtin valid).create s line = .error why ↔
        why = .emptyType ∧ Method.Hollow s l.body)) ∧
      (l.name = Kind.param.name → ((Registry.builtin valid).create s line = .error why ↔
        why = .emptyType ∧ Parameter.Hollow l.body)) := by
  refine ⟨?_, ?_, ?_⟩
  · intro e body
    simp only [Method.recognise, Equipment.reading_eq_refused_iff, Method.read_eq_refused_iff,
      exists_eq_left]
  · intro e body
    simp only [Parameter.recognise, Equipment.reading_eq_refused_iff,
      Parameter.read_eq_refused_iff, exists_eq_left]
  · intro valid line l why hline
    refine ⟨fun hname => ?_, fun hname => ?_⟩
    · have hfind : (Registry.builtin valid).find? l.name = some (Kind.method.recogniser valid) := by
        rw [hname]
        rfl
      rw [Registry.create_eq_error_iff hline hfind]
      refine Iff.trans (and_congr_right fun hne => ?_) (and_iff_right_of_imp fun h => h.2.ne_nil)
      rw [Kind.recogniser, Reading.map_eq_refused, Method.recognise, Equipment.reading_text hne,
        Method.read_eq_refused_iff]
    · have hfind : (Registry.builtin valid).find? l.name = some (Kind.param.recogniser valid) := by
        rw [hname]
        rfl
      rw [Registry.create_eq_error_iff hline hfind]
      refine Iff.trans (and_congr_right fun hne => ?_) (and_iff_right_of_imp fun h => h.2.ne_nil)
      rw [Kind.recogniser, Reading.map_eq_refused, Parameter.recognise, Equipment.reading_text hne,
        Parameter.read_eq_refused_iff]

theorem recognise_refused_hollow :
    let r := Registry.builtin fun _ => true
    (Equipment.Admits {} (some "| foo()".toList) ∧
      ∃ why, Method.recognise {} {} (some "| foo()".toList) = .refused why) ∧
    (Equipment.Admits {} (some "? $x".toList) ∧
      ∃ why, Parameter.recognise {} {} (some "? $x".toList) = .refused why) ∧
    r.create {} "@method | foo()".toList = .error .emptyType ∧
    r.create {} "@param ? $x".toList = .error .emptyType := by
  intro r
  obtain ⟨hmethod, hparam, hcreate⟩ := recognise_refused_iff {}
  have hfoo : Method.Hollow {} "| foo()".toList :=
    ⟨⟨false, "|".toList, "foo".toList, [], []⟩, Method.Signature.ofBody?_eq_some_iff.1 (by decide),
      .inl ⟨by decide, [], by decide, .nil⟩⟩
  have hx : Parameter.Hollow "? $x".toList :=
    ⟨"?".toList, .plain (by decide) (Parameter.typeAt_iff.2 ⟨by decide, by decide, by decide⟩),
      by decide +kernel⟩
  refine ⟨⟨⟨⟨_, rfl, by decide⟩, rfl, rfl⟩, (hmethod _ _).2 (.inr ⟨_, rfl, hfoo⟩)⟩,
    ⟨⟨⟨_, rfl, by decide⟩, rfl, rfl⟩, (hparam _ _).2 (.inr ⟨_, rfl, hx⟩)⟩, ?_, ?_⟩
  · have hline : TagLine.ofText? "@method | foo()".toList =
        some ⟨"method".toList, "| foo()".toList⟩ := by decide
    exact ((hcreate _ _ _ _ hline).1 rfl).2 ⟨rfl, hfoo⟩
  · have hline : TagLine.ofText? "@param ? $x".toList =
        some ⟨"param".toList, "? $x".toList⟩ := by decide
    exact ((hcreate _ _ _ _ hline).2 rfl).2 ⟨rfl, hx⟩

end DocTag
