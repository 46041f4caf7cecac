import DocTag.Proofs.Blank
import DocTag.Proofs.Character
import DocTag.Proofs.Tag.Reading
import Mathlib.Data.List.Forall2

/-!
The parts of a method's body, said without the functions that find them.
-/

namespace DocTag.Method

open Text

theorem not_isBlank_of_isTypeChar {c : Char} (h : isTypeChar c = true) : isBlank c = false := by
  simp only [isTypeChar, Bool.or_eq_true, beq_iff_eq] at h
  rcases h with (h | rfl) | rfl
  · exact not_isBlank_of_isWord h
  · decide
  · decide

inductive TypeTail : Text → Prop
  | nil : TypeTail []
  | char {c : Char} {t : Text} : isTypeChar c = true → TypeTail t → TypeTail (c :: t)
  | pair {t : Text} : TypeTail t → TypeTail ('[' :: ']' :: t)

theorem isTypeTail_iff {t : Text} : isTypeTail t = true ↔ TypeTail t := by
  constructor
  · intro h
    fun_induction isTypeTail t with
    | case1 => exact .nil
    | case2 rest ih => exact .pair (ih h)
    | case3 c rest _ ih =>
      rw [Bool.and_eq_true] at h
      exact .char h.1 (ih h.2)
  · intro h
    induction h with
    | nil => rfl
    | @char c t hc _ ih =>
      unfold isTypeTail
      split
      · rfl
      · rename_i e
        obtain ⟨rfl, rfl⟩ := List.cons.inj e
        exact absurd hc (by decide)
      · rename_i e
        obtain ⟨rfl, rfl⟩ := List.cons.inj e
        rw [hc, ih, Bool.and_true]
    | pair _ ih => exact ih

/-- A written return type: the receiver among type characters, or a type character followed by type
    characters and pairs of square brackets. -/
inductive ReturnToken : Text → Prop
  | this {before after : Text} : (∀ c ∈ before, isTypeChar c = true) →
      (∀ c ∈ after, isTypeChar c = true) → ReturnToken (before ++ "$this".toList ++ after)
  | type {c : Char} {tail : Text} : isTypeChar c = true → TypeTail tail → ReturnToken (c :: tail)

theorem isThisToken_iff {t : Text} : isThisToken t = true ↔
    ∃ before after, t = before ++ "$this".toList ++ after ∧
      (∀ c ∈ before, isTypeChar c = true) ∧ ∀ c ∈ after, isTypeChar c = true := by
  unfold isThisToken
  constructor
  · intro h
    split at h
    · rename_i rest hrest
      rw [List.isPrefixOf?_eq_some_iff_append_eq] at hrest
      refine ⟨t.takeWhile isTypeChar, rest, ?_, fun c hc => List.mem_takeWhile_imp hc,
        by simpa using h⟩
      rw [List.append_assoc, hrest, List.takeWhile_append_dropWhile]
    · cases h
  · rintro ⟨before, after, rfl, hbefore, hafter⟩
    have hdrop : (before ++ "$this".toList ++ after).dropWhile isTypeChar =
        "$this".toList ++ after := by
      rw [List.append_assoc]
      exact dropWhile_append_run hbefore (by rintro _ ⟨⟩; decide)
    rw [hdrop, List.isPrefixOf?_eq_some_iff_append_eq.2 rfl]
    simpa using hafter

theorem isReturnToken_iff {t : Text} : isReturnToken t = true ↔ t = [] ∨ ReturnToken t := by
  have htype : isTypeToken t = true ↔
      ∃ c tail, t = c :: tail ∧ isTypeChar c = true ∧ TypeTail tail := by
    cases t with
    | nil => simp [isTypeToken]
    | cons c tail =>
      rw [isTypeToken, Bool.and_eq_true, isTypeTail_iff]
      constructor
      · exact fun h => ⟨c, tail, rfl, h⟩
      · rintro ⟨_, _, ⟨⟩, h⟩
        exact h
  rw [isReturnToken, Bool.or_eq_true, Bool.or_eq_true, List.isEmpty_iff, isThisToken_iff, htype]
  constructor
  · rintro ((rfl | ⟨before, after, rfl, hb, ha⟩) | ⟨c, tail, rfl, hc, ht⟩)
    · exact .inl rfl
    · exact .inr (.this hb ha)
    · exact .inr (.type hc ht)
  · rintro (rfl | h)
    · exact .inl (.inl rfl)
    · cases h with
      | this hb ha => exact .inl (.inr ⟨_, _, rfl, hb, ha⟩)
      | type hc ht => exact .inr ⟨_, _, rfl, hc, ht⟩

theorem TypeTail.mem {t : Text} (h : TypeTail t) {c : Char} (hc : c ∈ t) :
    isTypeChar c = true ∨ c = '[' ∨ c = ']' := by
  induction h with
  | nil => cases hc
  | char hd _ ih =>
    rcases List.mem_cons.1 hc with rfl | hc
    · exact .inl hd
    · exact ih hc
  | pair _ ih =>
    rcases List.mem_cons.1 hc with rfl | hc
    · exact .inr (.inl rfl)
    · rcases List.mem_cons.1 hc with rfl | hc
      · exact .inr (.inr rfl)
      · exact ih hc

theorem ReturnToken.mem {t : Text} (h : ReturnToken t) {c : Char} (hc : c ∈ t) :
    isTypeChar c = true ∨ c = '$' ∨ c = '[' ∨ c = ']' := by
  cases h with
  | this hb ha =>
    have table : ∀ c ∈ "$this".toList, isTypeChar c = true ∨ c = '$' := by decide
    simp only [List.mem_append] at hc
    rcases hc with (hc | hc) | hc
    · exact .inl (hb c hc)
    · rcases table c hc with h | h
      · exact .inl h
      · exact .inr (.inl h)
    · exact .inl (ha c hc)
  | type hd ht =>
    rcases List.mem_cons.1 hc with rfl | hc
    · exact .inl hd
    · rcases ht.mem hc with h | h
      · exact .inl h
      · exact .inr (.inr h)

theorem ReturnToken.not_isBlank {t : Text} (h : ReturnToken t) : ∀ c ∈ t, isBlank c = false := by
  intro c hc
  rcases h.mem hc with h | rfl | rfl | rfl
  · exact not_isBlank_of_isTypeChar h
  all_goals decide

theorem not_isBlank_of_token {t : Text} (h : t = [] ∨ ReturnToken t) :
    ∀ c ∈ t, isBlank c = false := by
  rcases h with rfl | h
  · simp
  · exact h.not_isBlank

theorem ReturnToken.ne_nil {t : Text} (h : ReturnToken t) : t ≠ [] := by
  cases h <;> simp

theorem startsWord_iff {t : Text} :
    startsWord t = true ↔ ∃ c rest, t = c :: rest ∧ isWord c = true := by
  cases t with
  | nil => simp [startsWord]
  | cons c rest => simp [startsWord]

theorem head?_of_startsWord {t : Text} (h : startsWord t = true) :
    ∀ c ∈ t.head?, isBlank c = false := by
  obtain ⟨c, rest, rfl, hc⟩ := startsWord_iff.1 h
  rintro _ ⟨⟩
  exact not_isBlank_of_isWord hc

/-- A text that starts with a return type, or with blanks in place of one, before a name. -/
inductive Carries : Text → Text → Text → Prop
  | intro {token gap rest : Text} : token = [] ∨ ReturnToken token → gap ≠ [] → Blank gap →
      startsWord rest = true → Carries (token ++ gap ++ rest) token rest

theorem returnToken?_eq_some {t token rest : Text} :
    returnToken? t = some (token, rest) ↔ Carries t token rest := by
  unfold returnToken?
  simp only [Option.ite_none_right_eq_some, Bool.and_eq_true, Bool.not_eq_true', Option.some.injEq,
    Prod.mk.injEq, isReturnToken_iff]
  constructor
  · rintro ⟨⟨⟨hne, hword⟩, htoken⟩, rfl, rfl⟩
    have hsplit : t = t.takeWhile (!isBlank ·) ++ (t.dropWhile (!isBlank ·)).takeWhile isBlank ++
        trimStart (t.dropWhile (!isBlank ·)) := by
      rw [List.append_assoc, trimStart, List.takeWhile_append_dropWhile,
        List.takeWhile_append_dropWhile]
    have hgap : (t.dropWhile (!isBlank ·)).takeWhile isBlank ≠ [] := by
      intro e
      have hhead := head?_dropWhile (p := (!isBlank ·)) (t := t)
      cases hdrop : t.dropWhile (!isBlank ·) with
      | nil => simp [hdrop] at hne
      | cons c rest =>
        rw [hdrop] at e hhead
        have hc : isBlank c = true := by simpa using hhead c rfl
        simp [hc] at e
    have h := Carries.intro htoken hgap (blank_takeWhile _) hword
    rwa [← hsplit] at h
  · rintro ⟨htoken, hne, hgap, hword⟩
    rename_i gap
    have hsolid : ∀ c ∈ token, (!isBlank c) = true := by simpa using not_isBlank_of_token htoken
    have hhead : ∀ c ∈ (gap ++ rest).head?, (!isBlank c) = false := by
      simpa using hgap.head?_append hne rest
    rw [List.append_assoc, dropWhile_append_run hsolid hhead, takeWhile_append_run hsolid hhead,
      trimStart_append hgap (head?_of_startsWord hword)]
    exact ⟨⟨⟨by simp [hne], hword⟩, htoken⟩, rfl, rfl⟩

theorem returnToken?_eq_none {t : Text} :
    returnToken? t = none ↔ ∀ token rest, ¬ Carries t token rest := by
  rw [Option.eq_none_iff_forall_ne_some]
  constructor
  · intro h token rest hc
    exact h (token, rest) (returnToken?_eq_some.2 hc)
  · rintro h ⟨token, rest⟩ e
    exact h token rest (returnToken?_eq_some.1 e)

/-- A text that starts with the word `static` as a mark: blanks follow it, and then a name or a
    return type before a name. -/
inductive Marked : Text → Text → Prop
  | intro {gap rest : Text} : gap ≠ [] → Blank gap → (∀ c ∈ rest.head?, isBlank c = false) →
      startsWord rest = true ∨ (∃ token more, Carries rest token more) →
      Marked ("static".toList ++ gap ++ rest) rest

theorem static?_eq_some {body rest : Text} : static? body = some rest ↔ Marked body rest := by
  have carries : ∀ t, (returnToken? t).isSome = true ↔ ∃ token more, Carries t token more := by
    intro t
    rw [Option.isSome_iff_exists]
    constructor
    · rintro ⟨⟨token, more⟩, h⟩
      exact ⟨token, more, returnToken?_eq_some.1 h⟩
    · rintro ⟨token, more, h⟩
      exact ⟨(token, more), returnToken?_eq_some.2 h⟩
  unfold static?
  constructor
  · intro h
    split at h
    · cases h
    · rename_i after hafter
      rw [List.isPrefixOf?_eq_some_iff_append_eq] at hafter
      simp only [Option.ite_none_right_eq_some, Bool.and_eq_true, decide_eq_true_eq,
        Bool.or_eq_true, Option.some.injEq, carries] at h
      obtain ⟨⟨hlen, hnext⟩, rfl⟩ := h
      have hsplit : after = after.takeWhile isBlank ++ trimStart after := by
        rw [trimStart, List.takeWhile_append_dropWhile]
      have hgap : after.takeWhile isBlank ≠ [] := by
        intro e
        rw [e, List.nil_append] at hsplit
        rw [← hsplit] at hlen
        omega
      have hmarked := Marked.intro hgap (blank_takeWhile _) (head?_trimStart after) hnext
      rwa [List.append_assoc, ← hsplit, hafter] at hmarked
  · rintro ⟨hne, hgap, hhead, hnext⟩
    rename_i gap
    have hlen : 0 < gap.length := List.length_pos_iff.2 hne
    rw [List.append_assoc, List.isPrefixOf?_eq_some_iff_append_eq.2 rfl]
    simp only [trimStart_append hgap hhead]
    rw [if_pos]
    rw [Bool.and_eq_true, Bool.or_eq_true, carries, decide_eq_true_eq, List.length_append]
    exact ⟨by omega, hnext⟩

theorem static?_eq_none {body : Text} : static? body = none ↔ ∀ rest, ¬ Marked body rest := by
  simp only [Option.eq_none_iff_forall_ne_some, ne_eq, static?_eq_some]

theorem arguments?_eq_some {t arguments rest : Text} :
    arguments? t = some (arguments, rest) ↔
      t = '(' :: arguments ++ ')' :: rest ∧ ')' ∉ arguments := by
  constructor
  · intro h
    unfold arguments? at h
    split at h
    · rename_i t
      split at h
      · cases h
      · rename_i c after hdrop
        simp only [Option.some.injEq, Prod.mk.injEq] at h
        obtain ⟨rfl, rfl⟩ := h
        have hc : c = ')' := by
          have := head?_dropWhile (p := (· != ')')) (t := t)
          rw [hdrop] at this
          simpa using this c rfl
        subst hc
        refine ⟨?_, fun hmem => by simpa using List.mem_takeWhile_imp hmem⟩
        rw [List.cons_append, ← hdrop, List.takeWhile_append_dropWhile]
    · cases h
  · rintro ⟨rfl, hno⟩
    have hrun := bne_of_not_mem hno
    simp only [List.cons_append, arguments?]
    rw [dropWhile_append_run hrun (by simp), takeWhile_append_run hrun (by simp)]

theorem arguments?_eq_none {t : Text} :
    arguments? t = none ↔ ∀ arguments rest, t ≠ '(' :: arguments ++ ')' :: rest := by
  constructor
  · rintro h arguments rest rfl
    have hdrop : (arguments ++ ')' :: rest).dropWhile (· != ')') ≠ [] := by
      intro e
      have := List.dropWhile_eq_nil_iff.1 e ')' (by simp)
      simp at this
    simp only [List.cons_append, arguments?] at h
    split at h
    · contradiction
    · cases h
  · intro h
    cases e : arguments? t with
    | none => rfl
    | some pair => exact absurd (arguments?_eq_some.1 e).1 (h _ _)

inductive Returns : Text → Text → Text → Prop
  | typed {t token rest : Text} : Carries t token rest → Returns t token rest
  | untyped {t : Text} : (∀ token rest, ¬ Carries t token rest) → Returns t [] t

inductive Opens : Text → Bool → Text → Text → Prop
  | static {body rest token t : Text} : Marked body rest → Returns rest token t →
      Opens body true token t
  | plain {body token t : Text} : (∀ rest, ¬ Marked body rest) → Returns body token t →
      Opens body false token t

inductive Closes : Text → Text → Text → Prop
  | arguments {arguments rest : Text} : ')' ∉ arguments →
      Closes ('(' :: arguments ++ ')' :: rest) arguments rest
  | bare {t : Text} : (∀ arguments rest, t ≠ '(' :: arguments ++ ')' :: rest) → Closes t [] t

/-- The decomposition of a body: the name is the longest run of word characters at its place, and
    the description begins with the first character that is not blank. -/
inductive Decomposes (body : Text) (sig : Signature) : Prop
  | intro {start after rest : Text} : Opens body sig.isStatic sig.returns start →
      start = sig.name ++ after → sig.name ≠ [] → (∀ c ∈ sig.name, isWord c = true) →
      (∀ c ∈ after.head?, isWord c = false) → Closes after sig.arguments rest →
      rest.trimStart = sig.description → Decomposes body sig

theorem Signature.ofName?_eq_some {isStatic : Bool} {returns t : Text} {sig : Signature} :
    ofName? isStatic returns t = some sig ↔ sig.isStatic = isStatic ∧ sig.returns = returns ∧
      ∃ after rest, t = sig.name ++ after ∧ sig.name ≠ [] ∧ (∀ c ∈ sig.name, isWord c = true) ∧
        (∀ c ∈ after.head?, isWord c = false) ∧ Closes after sig.arguments rest ∧
        rest.trimStart = sig.description := by
  constructor
  · intro h
    have hsplit : t = t.takeWhile isWord ++ t.dropWhile isWord :=
      List.takeWhile_append_dropWhile.symm
    have hword : ∀ c ∈ t.takeWhile isWord, isWord c = true := fun c hc => List.mem_takeWhile_imp hc
    have hhead := head?_dropWhile (p := isWord) (t := t)
    unfold ofName? at h
    split at h
    · cases h
    · rename_i hne
      simp only at h
      split at h
      · rename_i arguments rest hargs
        rw [arguments?_eq_some] at hargs
        obtain rfl := Option.some.inj h
        refine ⟨rfl, rfl, t.dropWhile isWord, rest, hsplit, hne, hword, hhead, ?_, rfl⟩
        rw [hargs.1]
        exact .arguments hargs.2
      · rename_i hargs
        rw [arguments?_eq_none] at hargs
        obtain rfl := Option.some.inj h
        exact ⟨rfl, rfl, _, _, hsplit, hne, hword, hhead, .bare hargs, rfl⟩
  · obtain ⟨isStatic, returns, name, arguments, description⟩ := sig
    rintro ⟨rfl, rfl, after, rest, rfl, hne, hword, hhead, hclose, rfl⟩
    unfold ofName?
    rw [takeWhile_append_run hword hhead, dropWhile_append_run hword hhead]
    split
    · contradiction
    · cases hclose with
      | arguments hno => simp only [arguments?_eq_some.2 ⟨rfl, hno⟩]
      | bare hno => simp only [arguments?_eq_none.2 hno]

theorem exists_returns (t : Text) : ∃ token start, Returns t token start := by
  cases h : returnToken? t with
  | some x => exact ⟨x.1, x.2, .typed (returnToken?_eq_some.1 h)⟩
  | none => exact ⟨[], t, .untyped (returnToken?_eq_none.1 h)⟩

theorem exists_opens (body : Text) : ∃ isStatic token start, Opens body isStatic token start := by
  cases h : static? body with
  | some rest =>
    obtain ⟨token, start, hreturns⟩ := exists_returns rest
    exact ⟨true, token, start, .static (static?_eq_some.1 h) hreturns⟩
  | none =>
    obtain ⟨token, start, hreturns⟩ := exists_returns body
    exact ⟨false, token, start, .plain (static?_eq_none.1 h) hreturns⟩

theorem Signature.ofReturn?_of_returns {isStatic : Bool} {t token start : Text}
    (h : Returns t token start) : ofReturn? isStatic t = ofName? isStatic token start := by
  cases h with
  | typed hcarries => simp only [ofReturn?, returnToken?_eq_some.2 hcarries]
  | untyped hnone => simp only [ofReturn?, returnToken?_eq_none.2 hnone]

theorem Signature.ofBody?_of_opens {body token start : Text} {isStatic : Bool}
    (h : Opens body isStatic token start) : ofBody? body = ofName? isStatic token start := by
  cases h with
  | static hmarked hreturns =>
    simp only [ofBody?, static?_eq_some.2 hmarked, ofReturn?_of_returns hreturns]
  | plain hnone hreturns =>
    simp only [ofBody?, static?_eq_none.2 hnone, ofReturn?_of_returns hreturns]

theorem Signature.ofBody?_eq_some_iff {body : Text} {sig : Signature} :
    ofBody? body = some sig ↔ Decomposes body sig := by
  constructor
  · intro h
    obtain ⟨isStatic, token, start, hopens⟩ := exists_opens body
    rw [ofBody?_of_opens hopens] at h
    obtain ⟨rfl, rfl, after, rest, hstart, hne, hword, hhead, hclose, hdesc⟩ := ofName?_eq_some.1 h
    exact ⟨hopens, hstart, hne, hword, hhead, hclose, hdesc⟩
  · rintro ⟨hopens, hstart, hne, hword, hhead, hclose, hdesc⟩
    rw [ofBody?_of_opens hopens]
    exact ofName?_eq_some.2 ⟨rfl, rfl, _, _, hstart, hne, hword, hhead, hclose, hdesc⟩

theorem readArguments_eq_found_iff {s : Scope} {method : Text} {fragments : List Text}
    {ps : List Parameter} : readArguments s method fragments = .found ps ↔
      List.Forall₂ (fun t p => Parameter.read s t = .found p) fragments ps := by
  induction fragments generalizing ps with
  | nil => simp [readArguments, eq_comm]
  | cons t fragments ih =>
    rw [readArguments, List.forall₂_cons_left_iff]
    cases hread : Parameter.read s t with
    | refused why => simp
    | missed why => simp
    | found p =>
      simp only [Reading.map_eq_found, ih, Reading.found.injEq]
      constructor
      · rintro ⟨qs, hqs, rfl⟩
        exact ⟨p, qs, rfl, hqs, rfl⟩
      · rintro ⟨q, qs, rfl, hqs, rfl⟩
        exact ⟨qs, hqs, rfl⟩

theorem read_eq_found_iff {s : Scope} {body : Text} {m : Method} : read s body = .found m ↔
    ∃ sig, Decomposes body sig ∧ m.isStatic = sig.isStatic ∧ m.name = sig.name ∧
      m.description = some sig.description.dedent ∧ Ty.resolve s sig.typeText = .ok m.returns ∧
      List.Forall₂ (fun t p => Parameter.read s t = .found p) sig.arguments.arguments
        m.parameters := by
  constructor
  · intro h
    cases hbody : Signature.ofBody? body with
    | none =>
      rw [read_of_none hbody] at h
      cases h
    | some sig =>
      rw [read_of_some hbody] at h
      split at h
      · cases h
      · rename_i returns hreturns
        obtain ⟨ps, hps, rfl⟩ := Reading.map_eq_found.1 h
        exact ⟨sig, Signature.ofBody?_eq_some_iff.1 hbody, rfl, rfl, rfl, hreturns,
          readArguments_eq_found_iff.1 hps⟩
  · rintro ⟨sig, hbody, hstatic, hname, hdescription, hreturns, hps⟩
    rw [read_of_some (Signature.ofBody?_eq_some_iff.2 hbody), hreturns]
    simp only [readArguments_eq_found_iff.2 hps, Reading.map_found, Reading.found.injEq]
    cases m
    simp_all [Signature.method]

theorem Decomposes.ne_nil {body : Text} {sig : Signature} (h : Decomposes body sig) :
    body ≠ [] := by
  rintro rfl
  have hbody := Signature.ofBody?_eq_some_iff.2 h
  cases hbody

theorem recognise_eq_found_iff {s : Scope} {body : Text} {m : Method} :
    recognise {} s (some body) = .found m ↔ ∃ sig, Decomposes body sig ∧
      m.isStatic = sig.isStatic ∧ m.name = sig.name ∧
      m.description = some sig.description.dedent ∧ Ty.resolve s sig.typeText = .ok m.returns ∧
      List.Forall₂ (fun t p => Parameter.read s t = .found p) sig.arguments.arguments
        m.parameters := by
  by_cases hne : body = []
  · subst hne
    refine iff_of_false (fun h => by cases h) ?_
    rintro ⟨sig, hbody, -⟩
    exact hbody.ne_nil rfl
  · rw [recognise, Equipment.reading_text hne, read_eq_found_iff]

theorem readArguments_ne_notMethod (s : Scope) (method body : Text) (fragments : List Text) :
    readArguments s method fragments ≠ .missed (.notMethod body) := by
  induction fragments with
  | nil => simp [readArguments]
  | cons t fragments ih =>
    rw [readArguments]
    cases Parameter.read s t with
    | refused why => simp
    | missed why => simp
    | found p => exact fun h => ih (Reading.map_eq_missed.1 h)

theorem recognise_eq_notMethod_iff {s : Scope} {body : Text} :
    recognise {} s (some body) = .missed (.notMethod body) ↔
      body ≠ [] ∧ ∀ sig, ¬ Decomposes body sig := by
  by_cases hne : body = []
  · subst hne
    exact iff_of_false (fun h => by cases h) fun h => h.1 rfl
  rw [recognise, Equipment.reading_text hne, and_iff_right hne]
  constructor
  · intro h sig hbody
    rw [read_of_some (Signature.ofBody?_eq_some_iff.2 hbody)] at h
    split at h
    · cases h
    · exact readArguments_ne_notMethod _ _ _ _ (Reading.map_eq_missed.1 h)
  · intro h
    refine read_of_none (Option.eq_none_iff_forall_ne_some.2 fun sig hbody => h sig ?_) s
    exact Signature.ofBody?_eq_some_iff.1 hbody

theorem Carries.isInfix {t token rest : Text} (h : Carries t token rest) :
    token <:+: t ∧ rest <:+: t := by
  cases h with
  | @intro _ gap _ =>
    refine ⟨?_, (List.suffix_append (token ++ gap) rest).isInfix⟩
    rw [List.append_assoc]
    exact (List.prefix_append token _).isInfix

theorem Returns.isInfix {t token start : Text} (h : Returns t token start) :
    token <:+: t ∧ start <:+: t := by
  cases h with
  | typed hcarries => exact hcarries.isInfix
  | untyped => exact ⟨⟨[], _, rfl⟩, List.infix_rfl⟩

theorem Marked.isInfix {body rest : Text} (h : Marked body rest) : rest <:+: body := by
  cases h with
  | @intro gap _ => exact (List.suffix_append ("static".toList ++ gap) rest).isInfix

theorem Opens.isInfix {body token start : Text} {isStatic : Bool}
    (h : Opens body isStatic token start) : token <:+: body ∧ start <:+: body := by
  cases h with
  | plain _ hreturns => exact hreturns.isInfix
  | static hmarked hreturns =>
    exact ⟨hreturns.isInfix.1.trans hmarked.isInfix, hreturns.isInfix.2.trans hmarked.isInfix⟩

theorem Closes.isInfix {t arguments rest : Text} (h : Closes t arguments rest) :
    arguments <:+: t ∧ rest <:+: t := by
  cases h with
  | arguments => exact ⟨⟨['('], ')' :: rest, by simp⟩, '(' :: arguments ++ [')'], [], by simp⟩
  | bare => exact ⟨⟨[], _, rfl⟩, List.infix_rfl⟩

theorem Decomposes.isInfix {body : Text} {sig : Signature} (h : Decomposes body sig) :
    sig.returns <:+: body ∧ sig.arguments <:+: body := by
  obtain ⟨hopens, hstart, -, -, -, hcloses, -⟩ := h
  obtain ⟨hreturns, hbody⟩ := hopens.isInfix
  refine ⟨hreturns, List.IsInfix.trans ?_ hbody⟩
  rw [hstart]
  exact hcloses.isInfix.1.trans (List.suffix_append _ _).isInfix

end DocTag.Method
