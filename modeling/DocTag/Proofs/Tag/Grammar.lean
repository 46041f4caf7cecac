import DocTag.Proofs.Pattern
import DocTag.Proofs.Tag.Signature

/-!
The parts of a method's body as the groups of a pattern. The pattern can match one body in several
ways, but the first of them in the order of backtracking is always the decomposition.
-/

namespace DocTag.Method

open Text Pattern

inductive Part where
  | static
  | returns
  | name
  | arguments
  | description

def thisPattern : Pattern Part :=
  .seq (.star (.char isTypeChar)) (.seq (word "$this".toList) (.star (.char isTypeChar)))

def typePattern : Pattern Part :=
  .seq (.char isTypeChar) (.star (.alt (.char isTypeChar) (word "[]".toList)))

def tokenPattern : Pattern Part := .alt thisPattern (opt typePattern)

def endPattern : Pattern Part :=
  .seq (.star (.char isBlank)) (.group .description (.star (.char fun _ => true)))

def argumentsPattern : Pattern Part :=
  .seq (.char (· == '(')) (.seq (.group .arguments (.star (.char (· != ')')))) (.char (· == ')')))

def namePattern : Pattern Part :=
  .seq (.group .name (plus (.char isWord))) (.seq (opt argumentsPattern) endPattern)

def returnPattern : Pattern Part :=
  .seq (opt (.seq (.group .returns tokenPattern) (plus (.char isBlank)))) namePattern

def pattern : Pattern Part :=
  .seq (opt (.seq (.group .static (word "static".toList)) (plus (.char isBlank)))) returnPattern

theorem matches_thisPattern {u : Text} {m : Captures Part} : Matches thisPattern u m ↔
    (∃ before after, u = before ++ "$this".toList ++ after ∧ (∀ c ∈ before, isTypeChar c = true) ∧
      ∀ c ∈ after, isTypeChar c = true) ∧ m = [] := by
  simp only [thisPattern, matches_seq, matches_star_char, matches_word]
  constructor
  · rintro ⟨before, _, _, _, rfl, rfl, ⟨hb, rfl⟩, _, after, _, _, rfl, rfl, ⟨rfl, rfl⟩, ha, rfl⟩
    exact ⟨⟨before, after, by rw [List.append_assoc], hb, ha⟩, rfl⟩
  · rintro ⟨⟨before, after, rfl, hb, ha⟩, rfl⟩
    exact ⟨before, _, [], [], by rw [List.append_assoc], rfl, ⟨hb, rfl⟩, _, after, [], [], rfl, rfl,
      ⟨rfl, rfl⟩, ha, rfl⟩

theorem matches_typeTail {u : Text} {m : Captures Part} :
    Matches (.star (.alt (.char isTypeChar) (word "[]".toList))) u m ↔ TypeTail u ∧ m = [] := by
  constructor
  · intro h
    generalize e : Pattern.star (.alt (.char isTypeChar) (word "[]".toList)) = q at h
    induction h with
    | done => exact ⟨.nil, rfl⟩
    | round _ hround _ _ ih =>
      obtain rfl := Pattern.star.inj e
      obtain ⟨htail, rfl⟩ := ih rfl
      rw [matches_alt, matches_char, matches_word] at hround
      rcases hround with ⟨⟨c, rfl, hc⟩, rfl⟩ | ⟨rfl, rfl⟩
      · exact ⟨.char hc htail, rfl⟩
      · exact ⟨.pair htail, rfl⟩
    | _ => cases e
  · rintro ⟨h, rfl⟩
    induction h with
    | nil => exact .done
    | @char c t hc _ ih => exact .round (u := [c]) (m := []) (by simp) (.left (.char hc)) ih
    | @pair t _ ih =>
      exact .round (u := "[]".toList) (m := []) (by simp) (.right (matches_word.2 ⟨rfl, rfl⟩)) ih

theorem matches_tokenPattern {u : Text} {m : Captures Part} :
    Matches tokenPattern u m ↔ (u = [] ∨ ReturnToken u) ∧ m = [] := by
  simp only [tokenPattern, opt, matches_alt, matches_thisPattern, typePattern, matches_seq,
    matches_char, matches_typeTail, matches_empty]
  constructor
  · rintro (⟨⟨before, after, rfl, hb, ha⟩, rfl⟩ |
      ⟨_, tail, _, _, rfl, rfl, ⟨⟨c, rfl, hc⟩, rfl⟩, htail, rfl⟩ | ⟨rfl, rfl⟩)
    · exact ⟨.inr (.this hb ha), rfl⟩
    · exact ⟨.inr (.type hc htail), rfl⟩
    · exact ⟨.inl rfl, rfl⟩
  · rintro ⟨rfl | h, rfl⟩
    · exact .inr (.inr ⟨rfl, rfl⟩)
    · cases h with
      | this hb ha => exact .inl ⟨⟨_, _, rfl, hb, ha⟩, rfl⟩
      | @type c tail hc htail =>
        exact .inr (.inl ⟨[c], tail, [], [], rfl, rfl, ⟨⟨c, rfl, hc⟩, rfl⟩, htail, rfl⟩)

theorem matches_returns {u : Text} {m : Captures Part} :
    Matches (.group .returns tokenPattern) u m ↔
      (u = [] ∨ ReturnToken u) ∧ m = [(Part.returns, u)] := by
  simp only [matches_group, matches_tokenPattern]
  constructor
  · rintro ⟨_, rfl, hu, rfl⟩
    exact ⟨hu, rfl⟩
  · rintro ⟨hu, rfl⟩
    exact ⟨[], rfl, hu, rfl⟩

theorem matches_argumentsPattern {u : Text} {m : Captures Part}
    (h : Matches argumentsPattern u m) : ∃ arguments, u = '(' :: arguments ++ [')'] := by
  simp only [argumentsPattern, matches_seq, matches_char, matches_group] at h
  obtain ⟨_, _, _, _, rfl, -, ⟨⟨c, rfl, hc⟩, -⟩, v, _, _, _, rfl, -, -, ⟨d, rfl, hd⟩, -⟩ := h
  rw [beq_iff_eq] at hc hd
  subst hc hd
  exact ⟨v, rfl⟩

section Gap

variable {α : Type} {k : Captures Part → Text → Option α}

theorem first?_gap {gap rest : Text} (hne : gap ≠ []) (hgap : Blank gap)
    (hhead : ∀ c ∈ rest.head?, isBlank c = false)
    (h : ∀ u, u ≠ [] → Blank u → k [] rest = none → k [] (u ++ rest) = none) :
    (plus (.char isBlank)).first? (gap ++ rest) k = k [] rest := by
  obtain ⟨c, gap, rfl⟩ := List.exists_cons_of_ne_nil hne
  rw [blank_cons] at hgap
  have hdrop : (gap ++ rest).dropWhile isBlank = rest := dropWhile_append_run hgap.2 hhead
  rw [List.cons_append, first?_plus_char_cons, if_pos hgap.1, hdrop]
  rw [hdrop]
  exact h

theorem first?_no_gap {t : Text} (h : ∀ c ∈ t.head?, isBlank c = false) :
    (plus (.char isBlank)).first? t k = none := by
  rw [plus, first?_seq]
  cases t with
  | nil => rw [first?_char_nil]
  | cons c t => simp [first?_char_cons, h c rfl]

end Gap

namespace Signature

def put (sig : Signature) : Part × Text → Signature
  | (.static, t) => { sig with isStatic := t == "static".toList }
  | (.returns, t) => { sig with returns := t }
  | (.name, t) => { sig with name := t }
  | (.arguments, t) => { sig with arguments := t }
  | (.description, t) => { sig with description := t }

def ofCaptures (m : Captures Part) : Signature := m.foldl put ⟨false, [], [], [], []⟩

def finish (sig : Signature) (m : Captures Part) (rest : Text) : Option Signature :=
  if rest.isEmpty then some (m.foldl put sig) else none

theorem finish_append (sig : Signature) (m n : Captures Part) :
    finish sig (m ++ n) = finish (m.foldl put sig) n := by
  funext rest
  rw [finish, finish, List.foldl_append]

theorem first?_seq_finish (a b : Pattern Part) (t : Text) (sig : Signature) :
    (a.seq b).first? t sig.finish =
      a.first? t fun m rest => b.first? rest (finish (m.foldl put sig)) := by
  rw [first?_seq]
  simp only [finish_append]

theorem first?_description (t : Text) (sig : Signature) :
    (Pattern.group Part.description (.star (.char fun _ => true))).first? t sig.finish =
      some { sig with description := t } := by
  have hdrop : t.dropWhile (fun _ => true) = [] := by simp
  rw [first?_group, first?_star_char]
  · simp [hdrop, finish, put]
  · intro u _ _ hnone
    simp [hdrop, finish] at hnone

theorem first?_endPattern (t : Text) (sig : Signature) :
    endPattern.first? t sig.finish = some { sig with description := t.trimStart } := by
  rw [endPattern, first?_seq_finish, first?_star_char]
  · exact first?_description _ _
  · intro u _ _ hnone
    rw [first?_description] at hnone
    cases hnone

theorem first?_argumentsPattern {α : Type} (t : Text) (k : Captures Part → Text → Option α) :
    argumentsPattern.first? t k =
      (arguments? t).bind fun x => k [(Part.arguments, x.1)] x.2 := by
  -- The run up to the closing parenthesis cannot end before it.
  cases hargs : arguments? t with
  | none =>
    rw [arguments?_eq_none] at hargs
    refine first?_eq_none k ?_
    rintro m u rest rfl hu
    obtain ⟨arguments, rfl⟩ := matches_argumentsPattern hu
    exact absurd (by simp) (hargs arguments rest)
  | some x =>
    obtain ⟨arguments, rest⟩ := x
    obtain ⟨rfl, hno⟩ := arguments?_eq_some.1 hargs
    have hrun := bne_of_not_mem hno
    have hdrop : (arguments ++ ')' :: rest).dropWhile (· != ')') = ')' :: rest :=
      dropWhile_append_run hrun (by simp)
    rw [argumentsPattern, first?_seq, List.cons_append, first?_char_cons, if_pos (by rfl),
      first?_seq, first?_group, first?_star_char]
    · simp [hdrop, first?_char_cons]
    · intro u hne hu _
      obtain ⟨c, v, rfl⟩ := List.exists_cons_of_ne_nil hne
      have hc : (c == ')') = false := by simpa using hu c (by simp)
      rw [List.cons_append, first?_char_cons, hc]
      rfl

theorem first?_rest (t : Text) (sig : Signature) :
    (Pattern.seq (opt argumentsPattern) endPattern).first? t sig.finish =
      match arguments? t with
      | some (arguments, rest) => some { sig with arguments, description := rest.trimStart }
      | none => some { sig with description := t.trimStart } := by
  rw [first?_seq_finish, first?_opt, first?_argumentsPattern]
  simp only [first?_endPattern]
  cases arguments? t <;> rfl

theorem first?_namePattern {t : Text} {sig : Signature} (h : sig.arguments = []) :
    namePattern.first? t sig.finish = ofName? sig.isStatic sig.returns t := by
  rw [namePattern, first?_seq_finish, first?_group]
  cases t with
  | nil => rw [first?_plus_char_nil]; rfl
  | cons c t =>
    rw [first?_plus_char_cons]
    · cases hc : isWord c with
      | false => simp [ofName?, hc]
      | true =>
        have hsplit : c :: t = (c :: t.takeWhile isWord) ++ t.dropWhile isWord := by
          rw [List.cons_append, List.takeWhile_append_dropWhile]
        rw [if_pos rfl, first?_rest, taken_eq hsplit]
        simp only [ofName?, hc, List.takeWhile_cons_of_pos, List.dropWhile_cons_of_pos]
        split <;> simp [*, put]
    · intro u _ _ hnone
      rw [first?_rest] at hnone
      split at hnone <;> cases hnone

theorem isSome_ofName? (isStatic : Bool) (returns t : Text) :
    (ofName? isStatic returns t).isSome = startsWord t := by
  unfold ofName?
  cases t with
  | nil => rfl
  | cons c t =>
    rw [startsWord]
    cases hc : isWord c with
    | false => simp [hc]
    | true =>
      simp only [hc, List.takeWhile_cons_of_pos]
      split <;> rfl

theorem isSome_ofReturn? {isStatic : Bool} {t : Text} : (ofReturn? isStatic t).isSome = true ↔
    startsWord t = true ∨ ∃ token rest, Carries t token rest := by
  unfold ofReturn?
  split
  · rename_i token rest h
    have hcarries := returnToken?_eq_some.1 h
    have hword : startsWord rest = true := by
      obtain ⟨_, _, _, hword⟩ := hcarries
      exact hword
    rw [isSome_ofName?]
    exact ⟨fun _ => .inr ⟨token, rest, hcarries⟩, fun _ => hword⟩
  · rename_i h
    rw [isSome_ofName?]
    constructor
    · exact .inl
    · rintro (hword | ⟨token, rest, hcarries⟩)
      · exact hword
      · exact absurd hcarries (returnToken?_eq_none.1 h token rest)

theorem ofReturn?_append_eq_none {isStatic : Bool} {gap t : Text} (hne : gap ≠ [])
    (hgap : Blank gap) (hhead : ∀ c ∈ t.head?, isBlank c = false)
    (h : ofReturn? isStatic t = none) : ofReturn? isStatic (gap ++ t) = none := by
  rw [← Option.not_isSome_iff_eq_none, isSome_ofReturn?] at h ⊢
  obtain ⟨d, gap, rfl⟩ := List.exists_cons_of_ne_nil hne
  have hd : isBlank d = true := hgap d (by simp)
  rintro (hword | ⟨token, rest, hcarries⟩)
  · exact absurd (head?_of_startsWord hword d rfl) (by simp [hd])
  · generalize e : d :: gap ++ t = whole at hcarries
    obtain ⟨htoken, hmore, hblank, hword⟩ := hcarries
    rename_i more
    -- The first character is a blank, so no token precedes the blanks.
    have hnil : token = [] := by
      rcases htoken with rfl | htoken
      · rfl
      · obtain ⟨c, token, rfl⟩ := List.exists_cons_of_ne_nil htoken.ne_nil
        obtain ⟨rfl, -⟩ := List.cons.inj e
        exact absurd (htoken.not_isBlank d (by simp)) (by simp [hd])
    subst hnil
    have hrest := congrArg trimStart e
    rw [trimStart_append hgap hhead, List.nil_append,
      trimStart_append hblank (head?_of_startsWord hword)] at hrest
    exact h (.inl (hrest ▸ hword))

theorem first?_gap_name {token gap rest : Text} {sig : Signature} (h : sig.arguments = [])
    (hne : gap ≠ []) (hgap : Blank gap) (hhead : ∀ c ∈ rest.head?, isBlank c = false) :
    (plus (.char isBlank)).first? (gap ++ rest) (fun n q => namePattern.first? q
      (finish (([(Part.returns, token)] ++ n).foldl put sig))) =
        ofName? sig.isStatic token rest := by
  have hname : ∀ q, namePattern.first? q (finish (([(Part.returns, token)] ++ []).foldl put sig)) =
      ofName? sig.isStatic token q := fun q => first?_namePattern h
  rw [first?_gap hne hgap hhead]
  · exact hname rest
  · intro u hu hblank _
    obtain ⟨d, u, rfl⟩ := List.exists_cons_of_ne_nil hu
    have hd : isBlank d = true := hblank d (by simp)
    rw [hname, ← Option.not_isSome_iff_eq_none, isSome_ofName?]
    intro hword
    exact absurd (head?_of_startsWord hword d rfl) (by simp [hd])

theorem first?_token {t : Text} {sig : Signature} (h : sig.arguments = []) :
    (Pattern.seq (.group Part.returns tokenPattern) (plus (.char isBlank))).first? t
      (fun m rest => namePattern.first? rest (finish (m.foldl put sig))) =
        (returnToken? t).bind fun x => ofName? sig.isStatic x.1 x.2 := by
  -- A return type is followed by a blank, so only the token up to the first blank can be one.
  rw [first?_seq]
  cases htoken : returnToken? t with
  | none =>
    refine first?_eq_none _ ?_
    rintro m u rest rfl hm
    obtain ⟨hu, rfl⟩ := matches_returns.1 hm
    have hsplit : rest = rest.takeWhile isBlank ++ rest.trimStart :=
      List.takeWhile_append_dropWhile.symm
    by_cases hgap : rest.takeWhile isBlank = []
    · rw [hgap, List.nil_append] at hsplit
      exact first?_no_gap (hsplit ▸ head?_trimStart rest)
    · rw [hsplit, first?_gap_name h hgap (blank_takeWhile rest) (head?_trimStart rest),
        ← Option.not_isSome_iff_eq_none, isSome_ofName?]
      intro hword
      have hcarries := Carries.intro hu hgap (blank_takeWhile rest) hword
      rw [List.append_assoc, ← hsplit] at hcarries
      exact returnToken?_eq_none.1 htoken _ _ hcarries
  | some x =>
    obtain ⟨token, rest⟩ := x
    obtain ⟨hu, hne, hgap, hword⟩ := returnToken?_eq_some.1 htoken
    rename_i gap
    rw [List.append_assoc, first?_eq_of_unique _ (matches_returns.2 ⟨hu, rfl⟩)]
    · exact first?_gap_name h hne hgap (head?_of_startsWord hword)
    · intro n v q e hn hsome
      obtain ⟨hv, rfl⟩ := matches_returns.1 hn
      have hq : ∀ c ∈ q.head?, isBlank c = true := by
        intro c hc
        by_contra hblank
        refine hsome (first?_no_gap ?_)
        rw [Option.mem_def.1 hc]
        rintro _ ⟨⟩
        simpa using hblank
      obtain rfl := eq_of_append_eq (not_isBlank_of_token hu) (not_isBlank_of_token hv)
        (hgap.head?_append hne rest) hq e
      exact ⟨rfl, (List.append_cancel_left e).symm⟩

theorem first?_returnPattern {t : Text} {sig : Signature} (harguments : sig.arguments = [])
    (hreturns : sig.returns = []) :
    returnPattern.first? t sig.finish = ofReturn? sig.isStatic t := by
  rw [returnPattern, first?_seq_finish, first?_opt, first?_token harguments]
  simp only [List.foldl_nil]
  rw [first?_namePattern harguments, hreturns, ofReturn?]
  cases htoken : returnToken? t with
  | none => rfl
  | some x =>
    obtain ⟨_, _, _, hword⟩ := returnToken?_eq_some.1 htoken
    rw [← isSome_ofName? sig.isStatic x.1 x.2, Option.isSome_iff_exists] at hword
    obtain ⟨found, hfound⟩ := hword
    simp [hfound]

theorem first?_gap_return {gap rest : Text} {sig : Signature} (harguments : sig.arguments = [])
    (hreturns : sig.returns = []) (hne : gap ≠ []) (hgap : Blank gap)
    (hhead : ∀ c ∈ rest.head?, isBlank c = false) :
    (plus (.char isBlank)).first? (gap ++ rest) (fun n q => returnPattern.first? q
      (finish (([(Part.static, "static".toList)] ++ n).foldl put sig))) = ofReturn? true rest := by
  have hreturn : ∀ q, returnPattern.first? q
      (finish (([(Part.static, "static".toList)] ++ []).foldl put sig)) = ofReturn? true q :=
    fun q => first?_returnPattern harguments hreturns
  rw [first?_gap hne hgap hhead]
  · exact hreturn rest
  · intro u hu hblank hnone
    rw [hreturn] at hnone ⊢
    exact ofReturn?_append_eq_none hu hblank hhead hnone

theorem first?_mark {t : Text} {sig : Signature} (harguments : sig.arguments = [])
    (hreturns : sig.returns = []) :
    (Pattern.seq (.group Part.static (word "static".toList)) (plus (.char isBlank))).first? t
      (fun m rest => returnPattern.first? rest (finish (m.foldl put sig))) =
        (static? t).bind (ofReturn? true) := by
  -- The word `static` is tried as a mark first, and is one exactly when the rest can be read.
  rw [first?_seq, first?_group, first?_word]
  cases hstatic : static? t with
  | none =>
    cases hlead : "static".toList.isPrefixOf? t with
    | none => rfl
    | some after =>
      obtain rfl := List.isPrefixOf?_eq_some_iff_append_eq.1 hlead
      rw [Option.bind_some, taken_eq rfl]
      have hsplit : after = after.takeWhile isBlank ++ trimStart after :=
        List.takeWhile_append_dropWhile.symm
      by_cases hgap : after.takeWhile isBlank = []
      · rw [hgap, List.nil_append] at hsplit
        exact first?_no_gap (hsplit ▸ head?_trimStart after)
      · have hblank := blank_takeWhile after
        have hhead := head?_trimStart after
        rw [hsplit, first?_gap_return harguments hreturns hgap hblank hhead, Option.bind_none,
          ← Option.not_isSome_iff_eq_none, isSome_ofReturn?]
        intro hnext
        have hmarked := Marked.intro hgap hblank hhead hnext
        rw [List.append_assoc, ← hsplit] at hmarked
        exact static?_eq_none.1 hstatic _ hmarked
  | some rest =>
    obtain ⟨hne, hgap, hhead, hnext⟩ := static?_eq_some.1 hstatic
    rename_i gap
    have hlead :
        "static".toList.isPrefixOf? ("static".toList ++ gap ++ rest) = some (gap ++ rest) :=
      List.isPrefixOf?_eq_some_iff_append_eq.2 (List.append_assoc _ _ _).symm
    rw [hlead, Option.bind_some, taken_eq (List.append_assoc _ _ _)]
    exact first?_gap_return harguments hreturns hne hgap hhead

theorem map_full?_pattern (body : Text) : (pattern.full? body).map ofCaptures = ofBody? body := by
  rw [map_full?]
  change pattern.first? body (finish ⟨false, [], [], [], []⟩) = ofBody? body
  rw [pattern, first?_seq_finish, first?_opt, first?_mark rfl rfl]
  simp only [List.foldl_nil]
  rw [first?_returnPattern rfl rfl, ofBody?]
  cases hstatic : static? body with
  | none => rfl
  | some rest =>
    obtain ⟨_, _, _, hnext⟩ := static?_eq_some.1 hstatic
    have hsome : (ofReturn? true rest).isSome = true := isSome_ofReturn?.2 hnext
    obtain ⟨found, hfound⟩ := Option.isSome_iff_exists.1 hsome
    simp only [Option.bind_some, hfound, Option.some_or]

/-- The first match of the grammar is the decomposition, whatever other matches there are. A body is
    not recognised just when no word character stands where its name is looked for, and a recognised
    method has what the decomposition names, read in its scope, and the type `void` for none. -/
theorem pattern_decomposes (body : Text) :
    (pattern.full? body).map ofCaptures = ofBody? body ∧
    (∀ sig, ofBody? body = some sig ↔ Decomposes body sig) ∧
    (∃ isStatic returns start, Opens body isStatic returns start ∧
      (ofBody? body = none ↔ start.takeWhile isWord = [])) ∧
    ∀ s : Scope,
      (recognise {} s (some body) = .missed (.notMethod body) ↔
        body ≠ [] ∧ ∀ sig, ¬ Decomposes body sig) ∧
      ∀ m, recognise {} s (some body) = .found m ↔ ∃ sig, Decomposes body sig ∧
        m.isStatic = sig.isStatic ∧ m.name = sig.name ∧
        m.description = some sig.description.dedent ∧
        Ty.resolve s (if sig.returns = [] then "void".toList else sig.returns) = .ok m.returns ∧
        List.Forall₂ (fun fragment p => Parameter.read s fragment = .found p)
          sig.arguments.arguments m.parameters := by
  refine ⟨map_full?_pattern body, fun sig => ofBody?_eq_some_iff, ?_, fun s => ⟨?_, fun m => ?_⟩⟩
  · obtain ⟨isStatic, returns, start, hopens⟩ := exists_opens body
    refine ⟨isStatic, returns, start, hopens, ?_⟩
    rw [ofBody?_of_opens hopens, ← Option.not_isSome_iff_eq_none, isSome_ofName?]
    cases start with
    | nil => simp [startsWord]
    | cons c start => cases hc : isWord c <;> simp [startsWord, hc]
  · exact recognise_eq_notMethod_iff
  · rw [recognise_eq_found_iff]
    simp only [typeText, List.isEmpty_iff]

end Signature

end DocTag.Method
