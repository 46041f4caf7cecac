import DocTag.Proofs.Tag.Reading
import DocTag.Proofs.Tag.Signature
import DocTag.Proofs.Trailing
import DocTag.Proofs.Ty.Read

namespace DocTag.Method

open Text Reading

variable {b : Text}

theorem startsWord_append {t : Text} (h : t ≠ []) (u : Text) :
    startsWord (t ++ u) = startsWord t := by
  obtain ⟨c, t, rfl⟩ := List.exists_cons_of_ne_nil h
  rfl

theorem returnToken?_append_blank (hb : b.Blank) (t : Text) :
    returnToken? (t ++ b) = (returnToken? t).map fun x => (x.1, x.2 ++ b) := by
  have hsolid : ∀ c ∈ b.head?, (!isBlank c) = false := fun c hc => by
    simpa using hb c (List.mem_of_head? hc)
  unfold returnToken?
  simp only [takeWhile_append_of_head hsolid, dropWhile_append_of_head hsolid]
  generalize (t.dropWhile (!isBlank ·) : Text) = rest
  rcases trimStart_append_blank hb rest with ⟨h, h'⟩ | ⟨h, h'⟩
  · simp [h, h', startsWord]
  · have hne : rest ≠ [] := by
      rintro rfl
      exact h rfl
    have hne' : rest ++ b ≠ [] := by simp [hne]
    simp only [h', startsWord_append h, List.isEmpty_eq_false_iff.2 hne,
      List.isEmpty_eq_false_iff.2 hne']
    split <;> rfl

theorem static?_append_blank (hb : b.Blank) (t : Text) :
    static? (t ++ b) = (static? t).map (· ++ b) := by
  unfold static?
  rw [isPrefixOf?_append_blank (by decide) hb]
  cases "static".toList.isPrefixOf? t with
  | none => rfl
  | some rest =>
    simp only [Option.map_some]
    rcases trimStart_append_blank hb rest with ⟨h, h'⟩ | ⟨h, h'⟩
    · have htoken : returnToken? [] = none := rfl
      simp [h, h', startsWord, htoken]
    · simp only [h', startsWord_append h, returnToken?_append_blank hb, Option.isSome_map,
        List.length_append, Nat.add_lt_add_iff_right]
      split <;> rfl

theorem arguments?_append_blank (hb : b.Blank) (t : Text) :
    arguments? (t ++ b) = (arguments? t).map fun x => (x.1, x.2 ++ b) := by
  cases h : arguments? t with
  | some x =>
    obtain ⟨arguments, rest⟩ := x
    obtain ⟨rfl, hno⟩ := arguments?_eq_some.1 h
    exact arguments?_eq_some.2 ⟨by simp, hno⟩
  | none =>
    rw [arguments?_eq_none] at h
    refine arguments?_eq_none.2 fun arguments rest e => ?_
    -- The parenthesis that closes the arguments is none of the blanks.
    have e : t ++ b = '(' :: arguments ++ [')'] ++ rest := by simpa using e
    rcases List.append_eq_append_iff.1 e with ⟨x, hx, hrest⟩ | ⟨x, rfl, -⟩
    · rcases List.eq_nil_or_concat' x with rfl | ⟨x, c, rfl⟩
      · exact h arguments [] (by simpa using hx.symm)
      · rw [← List.append_assoc] at hx
        obtain rfl := List.singleton_inj.1 (List.append_inj_right' hx rfl)
        exact absurd (by simp [hrest]) (hb.not_mem (c := ')') (by decide))
    · exact h arguments x (by simp)

structure Signature.Agrees (x y : Signature) : Prop where
  isStatic : x.isStatic = y.isStatic
  returns : x.returns = y.returns
  name : x.name = y.name
  arguments : x.arguments = y.arguments
  description : x.description.dedent = y.description.dedent

theorem Signature.agrees_append_blank (hb : b.Blank) (isStatic : Bool)
    (returns name arguments rest : Text) :
    Agrees ⟨isStatic, returns, name, arguments, (rest ++ b).trimStart⟩
      ⟨isStatic, returns, name, arguments, rest.trimStart⟩ := by
  refine ⟨rfl, rfl, rfl, rfl, ?_⟩
  rcases trimStart_append_blank hb rest with ⟨h, h'⟩ | ⟨-, h'⟩
  · rw [h, h']
  · simp only [h', dedent_append_blank hb]

theorem Signature.ofName?_append_blank (hb : b.Blank) (isStatic : Bool) (returns t : Text) :
    Option.Rel Agrees (ofName? isStatic returns (t ++ b)) (ofName? isStatic returns t) := by
  have hword : ∀ c ∈ b.head?, isWord c = false := fun c hc =>
    not_isWord_of_isBlank (hb c (List.mem_of_head? hc))
  unfold ofName?
  rw [takeWhile_append_of_head hword]
  split
  · exact .none
  · simp only [dropWhile_append_of_head hword, arguments?_append_blank hb]
    cases arguments? (t.dropWhile isWord) with
    | none => exact .some (agrees_append_blank hb _ _ _ _ _)
    | some x => exact .some (agrees_append_blank hb _ _ _ _ _)

theorem Signature.ofReturn?_append_blank (hb : b.Blank) (isStatic : Bool) (t : Text) :
    Option.Rel Agrees (ofReturn? isStatic (t ++ b)) (ofReturn? isStatic t) := by
  unfold ofReturn?
  rw [returnToken?_append_blank hb]
  cases returnToken? t with
  | none => exact ofName?_append_blank hb isStatic [] t
  | some x => exact ofName?_append_blank hb isStatic x.1 x.2

theorem Signature.ofBody?_append_blank (hb : b.Blank) (t : Text) :
    Option.Rel Agrees (ofBody? (t ++ b)) (ofBody? t) := by
  unfold ofBody?
  rw [static?_append_blank hb]
  cases static? t with
  | none => exact ofReturn?_append_blank hb false t
  | some rest => exact ofReturn?_append_blank hb true rest

theorem read_of_agrees (s : Scope) {t u : Text}
    (h : Option.Rel Signature.Agrees (Signature.ofBody? t) (Signature.ofBody? u)) :
    Rel Eq (read s t) (read s u) := by
  generalize ht : Signature.ofBody? t = x at h
  generalize hu : Signature.ofBody? u = y at h
  cases h with
  | none =>
    rw [read_of_none ht, read_of_none hu]
    exact .missed _ _
  | @some x y hxy =>
    have htype : x.typeText = y.typeText := by
      rw [Signature.typeText, Signature.typeText, hxy.returns]
    have hmethod : x.method (Signature.name_ne_nil_of_ofBody? ht) =
        y.method (Signature.name_ne_nil_of_ofBody? hu) := by
      funext returns parameters
      simp only [Signature.method, hxy.isStatic, hxy.name, hxy.description]
    rw [read_of_some ht, read_of_some hu, htype, hmethod, hxy.name, hxy.arguments]
    exact .of_eq rfl

section Lead

variable {a t : Text}

theorem Signature.ofName?_eq_none {isStatic : Bool} {returns : Text}
    (h : startsWord t = false) : ofName? isStatic returns t = none := by
  have hname : t.takeWhile isWord = [] := by
    cases t with
    | nil => rfl
    | cons c t => exact takeWhile_eq_nil (by rintro _ ⟨⟩; exact h)
  unfold ofName?
  rw [hname]

theorem static?_of_lead (ha : a.Blank) (hne : a ≠ []) : static? (a ++ t) = none := by
  rw [static?_eq_none]
  intro rest h
  have hhead := ha.head?_append hne t
  generalize a ++ t = u at h hhead
  cases h with
  | intro => exact absurd (hhead 's' rfl) (by decide)

theorem returnToken?_of_lead (ha : a.Blank) (hne : a ≠ [])
    (ht : ∀ c ∈ t.head?, isBlank c = false) :
    returnToken? (a ++ t) = if startsWord t then some ([], t) else none := by
  have hhead : ∀ c ∈ (a ++ t).head?, (!isBlank c) = false := by simpa using ha.head?_append hne t
  have hempty : (a ++ t).isEmpty = false := List.isEmpty_eq_false_iff.2 (by simp [hne])
  unfold returnToken?
  simp only [takeWhile_eq_nil hhead, dropWhile_eq_self hhead, trimStart_append ha ht, hempty,
    isReturnToken, List.isEmpty_nil, Bool.true_or, Bool.and_true, Bool.not_false, Bool.true_and]

theorem Signature.ofBody?_of_lead (ha : a.Blank) (hne : a ≠ [])
    (ht : ∀ c ∈ t.head?, isBlank c = false) : ofBody? (a ++ t) = ofName? false [] t := by
  -- Blanks in front of a body are the end of a return type that is empty, so the name is looked
  -- for right behind them.
  simp only [ofBody?, static?_of_lead ha hne, ofReturn?, returnToken?_of_lead ha hne ht]
  cases hword : startsWord t with
  | true => rfl
  | false =>
    have hblank : startsWord (a ++ t) = false := by
      obtain ⟨c, a, rfl⟩ := List.exists_cons_of_ne_nil hne
      exact not_isWord_of_isBlank (ha c (by simp))
    exact (ofName?_eq_none hblank).trans (ofName?_eq_none hword).symm

end Lead

structure Word (t word rest : Text) : Prop where
  ne_nil : word ≠ []
  solid : ∀ c ∈ word, isBlank c = false
  closed : '(' ∉ word
  cut : ∃ gap : Text, gap ≠ [] ∧ gap.Blank ∧ t = word ++ (gap ++ rest)

theorem Opens.exists_word {t token start : Text} {isStatic : Bool}
    (h : Opens t isStatic token start) (ht : ∀ c ∈ t.head?, isBlank c = false) :
    Opens t false [] t ∨ ∃ word rest, Word t word rest ∧ start <:+: rest := by
  cases h with
  | static hmarked hreturns =>
    cases hmarked with
    | @intro gap _ hne hgap =>
      refine .inr ⟨"static".toList, _, ⟨by decide, by decide, by decide, gap, hne, hgap, ?_⟩,
        hreturns.isInfix.2⟩
      rw [List.append_assoc]
  | plain hplain hreturns =>
    cases hreturns with
    | untyped hnone => exact .inl (.plain hplain (.untyped hnone))
    | typed hcarries =>
      cases hcarries with
      | @intro _ gap _ htoken hne hgap =>
        rcases htoken with rfl | htoken
        · obtain ⟨c, gap, rfl⟩ := List.exists_cons_of_ne_nil hne
          have hc := ht c rfl
          rw [hgap c (by simp)] at hc
          cases hc
        · have hclosed : '(' ∉ token := by
            intro hmem
            rcases htoken.mem hmem with h | h | h | h <;> exact absurd h (by decide)
          refine .inr ⟨token, _,
            ⟨htoken.ne_nil, htoken.not_isBlank, hclosed, gap, hne, hgap, ?_⟩, List.infix_rfl⟩
          rw [List.append_assoc]

theorem arguments?_eq_none_of_head {t : Text} (h : ∀ c ∈ t.head?, c ≠ '(') :
    arguments? t = none := by
  rw [arguments?_eq_none]
  rintro arguments rest rfl
  exact h '(' rfl rfl

theorem read_of_bare {t name description : Text}
    (h : Signature.ofBody? t = some ⟨false, [], name, [], description⟩) (s : Scope) :
    ∃ m, read s t = .found m ∧ m.description = some description.dedent := by
  have hvoid : Ty.resolve s "void".toList = .ok .void :=
    Ty.resolve_eq_ok.2 ⟨.keyword .void, by decide +kernel, rfl⟩
  rw [read_of_some h]
  simp only [Signature.typeText, List.isEmpty_nil, if_true, hvoid]
  exact ⟨_, rfl, rfl⟩

theorem Word.read_lead {a t word rest : Text} (h : Word t word rest) (ha : a.Blank) (hne : a ≠ [])
    (hword : startsWord t = true) (s : Scope) :
    ∃ m d, read s (a ++ t) = .found m ∧ m.description = some d ∧ rest.weight ≤ d.weight := by
  obtain ⟨gap, hgap, hblank, rfl⟩ := h.cut
  have hhead := hblank.head?_append hgap rest
  have hend : ∀ c ∈ (gap ++ rest).head?, isWord c = false := fun c hc =>
    not_isWord_of_isBlank (hhead c hc)
  have hname : word.takeWhile isWord ≠ [] := by
    obtain ⟨c, word, rfl⟩ := List.exists_cons_of_ne_nil h.ne_nil
    have hc : isWord c = true := hword
    simp [hc]
  have hclosed : ∀ c ∈ (word.dropWhile isWord ++ (gap ++ rest)).head?, c ≠ '(' := by
    rintro c hc rfl
    cases hdrop : word.dropWhile isWord with
    | nil =>
      rw [hdrop] at hc
      exact absurd (hhead '(' hc) (by decide)
    | cons d word' =>
      rw [hdrop] at hc
      obtain rfl : d = '(' := Option.some.inj hc
      exact h.closed ((List.dropWhile_suffix isWord).subset (by simp [hdrop]))
  have hbody : Signature.ofBody? (a ++ (word ++ (gap ++ rest))) =
      some ⟨false, [], word.takeWhile isWord, [],
        trimStart (word.dropWhile isWord ++ (gap ++ rest))⟩ := by
    rw [Signature.ofBody?_of_lead ha hne (head?_of_startsWord hword)]
    unfold Signature.ofName?
    rw [takeWhile_append_of_head hend, dropWhile_append_of_head hend]
    split
    · contradiction
    · simp only [arguments?_eq_none_of_head hclosed]
  obtain ⟨m, hread, hdescription⟩ := read_of_bare hbody s
  refine ⟨m, _, hread, hdescription, ?_⟩
  simp only [weight_dedent, weight_trimStart, weight_append]
  omega

theorem weight_of_read {s : Scope} {t token start : Text} {isStatic : Bool} {m : Method}
    (h : Opens t isStatic token start) (hread : read s t = .found m) :
    ∃ d, m.description = some d ∧ d.weight < start.weight := by
  cases hbody : Signature.ofBody? t with
  | none =>
    rw [read_of_none hbody] at hread
    cases hread
  | some sig =>
    rw [read_of_some hbody] at hread
    split at hread
    · cases hread
    · obtain ⟨parameters, -, rfl⟩ := map_eq_found.1 hread
      refine ⟨_, rfl, ?_⟩
      rw [Signature.ofBody?_of_opens h] at hbody
      obtain ⟨-, -, after, rest, rfl, hne, hword, -, hclose, hdescription⟩ :=
        Signature.ofName?_eq_some.1 hbody
      obtain ⟨c, hc⟩ := List.exists_mem_of_ne_nil _ hne
      have hname := weight_pos hc (not_isBlank_of_isWord (hword c hc))
      have hrest := weight_mono hclose.isInfix.2
      rw [weight_dedent, ← hdescription, weight_trimStart, weight_append]
      omega

theorem Word.append {t word rest : Text} (h : Word t word rest) (b : Text) :
    Word (t ++ b) word (rest ++ b) := by
  obtain ⟨gap, hgap, hblank, rfl⟩ := h.cut
  exact ⟨h.ne_nil, h.solid, h.closed, gap, hgap, hblank, by simp⟩

section Around

variable {s : Scope} {a t : Text}

theorem exists_missed_of_lead (ha : a.Blank) (hne : a ≠ []) (ht : ∀ c ∈ t.head?, isBlank c = false)
    (hword : startsWord t = false) : ∃ why, read s (a ++ t) = .missed why := by
  have hbody : Signature.ofBody? (a ++ t) = none := by
    rw [Signature.ofBody?_of_lead ha hne ht, Signature.ofName?_eq_none hword]
  exact ⟨_, read_of_none hbody s⟩

variable {R : Method → Method → Prop}

theorem not_rel_of_lead (hR : ∀ m m', R m m' → m.description.getD [] = m'.description.getD [])
    (ha : a.Blank) (ht : ∀ c ∈ t.head?, isBlank c = false) (hne : a ≠ [])
    (hopens : ¬ Opens t false [] t) (hword : startsWord t = true) :
    ¬ Rel R (read s (a ++ (t ++ b))) (read s t) := by
  intro hrel
  obtain ⟨isStatic, token, start, hstart⟩ := exists_opens t
  obtain ⟨word, rest, hcut, hrest⟩ := (hstart.exists_word ht).resolve_left hopens
  have htb : startsWord (t ++ b) = true := by
    rw [startsWord_append _ b, hword]
    rintro rfl
    cases hword
  obtain ⟨m, d, hread, hm, hle⟩ := (hcut.append b).read_lead ha hne htb s
  rw [hread] at hrel
  generalize hfound : read s t = x at hrel
  cases hrel with
  | @found _ m' hmm' =>
    obtain ⟨d', hm', hlt⟩ := weight_of_read hstart hfound
    have hdd' := hR m m' hmm'
    rw [hm, hm', Option.getD_some, Option.getD_some] at hdd'
    have hstart' := weight_mono hrest
    rw [hdd', weight_append] at hle
    omega

/-- Blanks around a body make no difference if none precede it, if nothing precedes the name or if
    there is no way to read it. -/
theorem rel_read_around_iff (hrefl : ∀ m, R m m)
    (hR : ∀ m m', R m m' → m.description.getD [] = m'.description.getD [])
    (ha : a.Blank) (hb : b.Blank) (ht : t.Tight) (hne : t ≠ []) :
    Rel R (read s (a ++ (t ++ b))) (read s t) ↔ a = [] ∨ Opens t false [] t ∨
      startsWord t = false ∧ ∃ why, read s t = .missed why := by
  have hhead : ∀ c ∈ (t ++ b).head?, isBlank c = false := by
    rw [List.head?_append_of_ne_nil _ hne]
    exact ht.head
  by_cases hlead : a = []
  · subst hlead
    rw [List.nil_append]
    refine iff_of_true ?_ (.inl rfl)
    exact (read_of_agrees s (Signature.ofBody?_append_blank hb t)).mono fun m _ e => e ▸ hrefl m
  by_cases hopens : Opens t false [] t
  · refine iff_of_true ?_ (.inr (.inl hopens))
    have hbody : Option.Rel Signature.Agrees (Signature.ofBody? (a ++ (t ++ b)))
        (Signature.ofBody? t) := by
      rw [Signature.ofBody?_of_lead ha hlead hhead, Signature.ofBody?_of_opens hopens]
      exact Signature.ofName?_append_blank hb false [] t
    exact (read_of_agrees s hbody).mono fun m _ e => e ▸ hrefl m
  · simp only [hlead, hopens, false_or]
    cases hword : startsWord t with
    | true => simpa using not_rel_of_lead hR ha ht.head hlead hopens hword
    | false =>
      obtain ⟨why, hmissed⟩ : ∃ why, read s (a ++ (t ++ b)) = .missed why := by
        rw [← startsWord_append hne b] at hword
        exact exists_missed_of_lead ha hlead hhead hword
      rw [hmissed, Rel.missed_iff]
      exact (and_iff_right rfl).symm

end Around

end DocTag.Method
