import DocTag.Proofs.Respaced
import DocTag.Proofs.Tag.Draft

namespace DocTag

open Text Reading

theorem Text.Respaced.startsWord {t u : Text} (h : Respaced t u) :
    Method.startsWord t = Method.startsWord u := by
  cases h with
  | nil => rfl
  | char => rfl
  | @gap a b _ _ ha hb hA hB =>
    obtain ⟨c, a, rfl⟩ := List.exists_cons_of_ne_nil ha
    obtain ⟨d, b, rfl⟩ := List.exists_cons_of_ne_nil hb
    have hc := not_isWord_of_isBlank (hA c (by simp))
    have hd := not_isWord_of_isBlank (hB d (by simp))
    simp [Method.startsWord, hc, hd]

namespace Parameter

theorem isSome_read?_of_respaced {t u : Text} (h : Respaced t u) :
    (Variable.read? t).isSome = (Variable.read? u).isSome := by
  obtain ⟨-, h⟩ := h.dropMark ['&'] (by decide)
  obtain ⟨-, h⟩ := h.dropMark ellipsis (by decide)
  simp only [Variable.read?]
  generalize (dropMark ellipsis (dropMark ['&'] t).2).2 = x at h
  generalize (dropMark ellipsis (dropMark ['&'] u).2).2 = y at h
  cases h with
  | nil => rfl
  | @char c x y _ h =>
    by_cases hc : c = '$'
    · subst hc
      have hname := h.takeWhile_eq (p := isWord) fun _ hb => not_isWord_of_isBlank hb
      simp only [hname]
      cases y.takeWhile isWord <;> rfl
    · simp [hc]
  | @gap a b x y ha hb hA hB =>
    obtain ⟨c, a, rfl⟩ := List.exists_cons_of_ne_nil ha
    obtain ⟨d, b, rfl⟩ := List.exists_cons_of_ne_nil hb
    have hne : ∀ e, isBlank e = true → e ≠ '$' := by
      rintro _ he rfl
      exact absurd he (by decide)
    simp [hne c (hA c (by simp)), hne d (hB d (by simp))]

theorem draftType_of_respaced {t u : Text} (h : Respaced t u) :
    Option.Rel (fun x y => x.1 = y.1 ∧ Respaced x.2 y.2) (draftType t) (draftType u) := by
  have hsolid : ∀ c, isBlank c = true → (!isBlank c) = false := by simp
  unfold draftType
  simp only [h.takeWhile_eq hsolid]
  split
  · exact .some ⟨rfl, h⟩
  · cases Ty.read? (u.takeWhile (!isBlank ·)) with
    | none => exact .none
    | some type => exact .some ⟨rfl, (h.dropWhile hsolid).trimStart⟩

theorem readMarked_of_respaced (s : Scope) (leading : Bool) {t u : Text} (h : Respaced t u) :
    Rel (fun _ _ => True) (readMarked s leading t) (readMarked s leading u) := by
  by_cases hne : t = []
  · rw [hne, h.eq_nil_iff.1 hne]
    exact .missed _ _
  · rw [readMarked_of_ne_nil s leading hne,
      readMarked_of_ne_nil s leading fun hu => hne (h.eq_nil_iff.2 hu)]
    have htype := draftType_of_respaced h
    generalize draftType t = x at htype
    generalize draftType u = y at htype
    cases htype with
    | none => exact .refused rfl
    | @some x y hxy =>
      obtain ⟨type, x⟩ := x
      obtain ⟨_, y⟩ := y
      obtain ⟨rfl, hxy⟩ := hxy
      have hvariable := isSome_read?_of_respaced hxy
      unfold ofDraft
      cases hx : Variable.read? x <;> cases hy : Variable.read? y <;> simp [hx, hy] at hvariable ⊢
      · exact .missed _ _
      · exact .found trivial

theorem read_of_respaced (s : Scope) {t u : Text} (h : Respaced t u) :
    Rel (fun _ _ => True) (read s t) (read s u) := by
  have hlead := h.trim.isPrefixOf? ellipsis (by decide)
  unfold read
  generalize ellipsis.isPrefixOf? t.trim = x at hlead
  generalize ellipsis.isPrefixOf? u.trim = y at hlead
  cases hlead with
  | none => exact readMarked_of_respaced s false h.trim
  | some hrest => exact readMarked_of_respaced s true hrest.trimStart

end Parameter

namespace Method

theorem readArguments_of_respaced (s : Scope) (method : Text) {ts us : List Text}
    (h : List.Forall₂ Respaced ts us) :
    Rel (fun _ _ => True) (readArguments s method ts) (readArguments s method us) := by
  induction h with
  | nil => exact .found trivial
  | @cons t u ts us htu _ ih =>
    have hread := Parameter.read_of_respaced s htu
    unfold readArguments
    generalize Parameter.read s t = x at hread
    generalize Parameter.read s u = y at hread
    cases hread with
    | found => exact ih.map fun _ _ _ => trivial
    | missed => exact .missed _ _
    | refused h => exact .refused h

structure Signature.Respaced (a b : Signature) : Prop where
  isStatic : a.isStatic = b.isStatic
  returns : a.returns = b.returns
  name : a.name = b.name
  arguments : a.arguments.Respaced b.arguments

theorem returnToken?_of_respaced {t u : Text} (h : t.Respaced u) :
    Option.Rel (fun x y => x.1 = y.1 ∧ Text.Respaced x.2 y.2) (returnToken? t)
      (returnToken? u) := by
  have hsolid : ∀ c, isBlank c = true → (!isBlank c) = false := by simp
  have hrest := h.dropWhile hsolid
  have hempty : (t.dropWhile (!isBlank ·)).isEmpty = (u.dropWhile (!isBlank ·)).isEmpty := by
    rw [Bool.eq_iff_iff, List.isEmpty_iff, List.isEmpty_iff, hrest.eq_nil_iff]
  unfold returnToken?
  simp only [h.takeWhile_eq hsolid, hempty, hrest.trimStart.startsWord]
  split
  · exact .some ⟨rfl, hrest.trimStart⟩
  · exact .none

theorem trimStart_shorter_of_respaced {t u : Text} (h : t.Respaced u)
    (ht : t.trimStart.length < t.length) : u.trimStart.length < u.length := by
  cases h with
  | nil => exact ht
  | char hc =>
    rw [trimStart_eq_self (by rintro _ ⟨⟩; exact hc)] at ht
    exact absurd ht (lt_irrefl _)
  | @gap a b t u _ hb _ hB =>
    have hle : u.trimStart.length ≤ u.length := length_dropWhile_le isBlank u
    have hpos : 0 < b.length := List.length_pos_iff.2 hb
    have htrim : (b ++ u).trimStart = u.trimStart := List.dropWhile_append_of_pos hB
    rw [htrim, List.length_append]
    omega

theorem static?_of_respaced {t u : Text} (h : t.Respaced u) :
    Option.Rel Text.Respaced (static? t) (static? u) := by
  have hlead := h.isPrefixOf? "static".toList (by decide)
  unfold static?
  generalize "static".toList.isPrefixOf? t = x at hlead
  generalize "static".toList.isPrefixOf? u = y at hlead
  cases hlead with
  | none => exact .none
  | @some x y hxy =>
    have hshorter : (trimStart x).length < x.length ↔ (trimStart y).length < y.length :=
      ⟨trimStart_shorter_of_respaced hxy, trimStart_shorter_of_respaced hxy.symm⟩
    have htoken : (returnToken? (trimStart x)).isSome = (returnToken? (trimStart y)).isSome := by
      have hrel := returnToken?_of_respaced hxy.trimStart
      generalize returnToken? (trimStart x) = a at hrel
      generalize returnToken? (trimStart y) = b at hrel
      cases hrel <;> rfl
    simp only [hshorter, hxy.trimStart.startsWord, htoken]
    split
    · exact .some hxy.trimStart
    · exact .none

theorem arguments?_of_respaced {t u : Text} (h : t.Respaced u) :
    Option.Rel (fun x y => x.1.Respaced y.1 ∧ x.2.Respaced y.2) (arguments? t) (arguments? u) := by
  cases h with
  | nil => exact .none
  | @char c t u _ h =>
    by_cases hc : c = '('
    · subst hc
      have hinside := bne_of_isBlank (d := ')') (by decide)
      have hrest := h.dropWhile hinside
      have harguments := h.takeWhile hinside
      have hhead := head?_dropWhile (p := (· != ')')) (t := t)
      simp only [arguments?]
      generalize t.dropWhile (· != ')') = x at hrest hhead
      generalize u.dropWhile (· != ')') = y at hrest
      cases hrest with
      | nil => exact .none
      | char _ hrest => exact .some ⟨harguments, hrest⟩
      | @gap a b _ _ ha _ hA =>
        obtain ⟨d, a, rfl⟩ := List.exists_cons_of_ne_nil ha
        have hd : (d != ')') = false := hhead d rfl
        rw [hinside d (hA d (by simp))] at hd
        cases hd
    · have hnone : ∀ t : Text, arguments? (c :: t) = none := by simp [arguments?, hc]
      rw [hnone t, hnone u]
      exact .none
  | @gap a b t u ha hb hA hB =>
    have hnone : ∀ {a : Text} (t : Text), a ≠ [] → a.Blank → arguments? (a ++ t) = none := by
      intro a t ha hA
      obtain ⟨c, a, rfl⟩ := List.exists_cons_of_ne_nil ha
      have hc : c ≠ '(' := by
        rintro rfl
        exact absurd (hA '(' (by simp)) (by decide)
      simp [arguments?, hc]
    rw [hnone t ha hA, hnone u hb hB]
    exact .none

theorem Signature.ofName?_of_respaced (isStatic : Bool) (returns : Text) {t u : Text}
    (h : t.Respaced u) :
    Option.Rel Respaced (ofName? isStatic returns t) (ofName? isStatic returns u) := by
  have hword : ∀ c, isBlank c = true → isWord c = false := fun _ => not_isWord_of_isBlank
  have harguments := arguments?_of_respaced (h.dropWhile hword)
  unfold ofName?
  rw [h.takeWhile_eq hword]
  split
  · exact .none
  · simp only
    generalize arguments? (t.dropWhile isWord) = x at harguments
    generalize arguments? (u.dropWhile isWord) = y at harguments
    cases harguments with
    | none => exact .some ⟨rfl, rfl, rfl, .nil⟩
    | some hxy => exact .some ⟨rfl, rfl, rfl, hxy.1⟩

theorem Signature.ofReturn?_of_respaced (isStatic : Bool) {t u : Text} (h : t.Respaced u) :
    Option.Rel Respaced (ofReturn? isStatic t) (ofReturn? isStatic u) := by
  have htoken := returnToken?_of_respaced h
  unfold ofReturn?
  generalize returnToken? t = x at htoken
  generalize returnToken? u = y at htoken
  cases htoken with
  | none => exact ofName?_of_respaced isStatic [] h
  | @some x y hxy =>
    obtain ⟨token, x⟩ := x
    obtain ⟨_, y⟩ := y
    obtain ⟨rfl, hxy⟩ := hxy
    exact ofName?_of_respaced isStatic token hxy

theorem Signature.ofBody?_of_respaced {t u : Text} (h : t.Respaced u) :
    Option.Rel Respaced (ofBody? t) (ofBody? u) := by
  have hstatic := static?_of_respaced h
  unfold ofBody?
  generalize static? t = x at hstatic
  generalize static? u = y at hstatic
  cases hstatic with
  | none => exact ofReturn?_of_respaced false h
  | some hxy => exact ofReturn?_of_respaced true hxy

theorem read_of_respaced (s : Scope) {t u : Text} (h : t.Respaced u) :
    Rel (fun _ _ => True) (read s t) (read s u) := by
  have hbody := Signature.ofBody?_of_respaced h
  generalize ht : Signature.ofBody? t = x at hbody
  generalize hu : Signature.ofBody? u = y at hbody
  cases hbody with
  | none =>
    rw [read_of_none ht, read_of_none hu]
    exact .missed _ _
  | @some a b hab =>
    have htype : a.typeText = b.typeText := by
      rw [Signature.typeText, Signature.typeText, hab.returns]
    rw [read_of_some ht, read_of_some hu, htype, hab.name]
    cases Ty.resolve s b.typeText with
    | error => exact .refused rfl
    | ok returns =>
      exact (readArguments_of_respaced s b.name hab.arguments.arguments).map fun _ _ _ => trivial

end Method

end DocTag
