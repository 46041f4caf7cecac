import DocTag.Json.Read
import DocTag.Proofs.Blank
import Mathlib.Tactic.IntervalCases

namespace DocTag

namespace Text

theorem hexDigit?_digitChar {d : Nat} (h : d < 16) : hexDigit? (Nat.digitChar d) = some d := by
  interval_cases d <;> rfl

end Text

namespace Json

def units (c : Char) : List Nat :=
  if c.toNat < 0x10000 then [c.toNat]
  else [0xD800 + (c.toNat - 0x10000) / 0x400, 0xDC00 + (c.toNat - 0x10000) % 0x400]

def unitsBefore (us : List Nat) (r : Option (List Nat × Text)) : Option (List Nat × Text) :=
  r.map fun (t, rest) => (us ++ t, rest)

theorem readUnits_writeUnit {n : Nat} (h : n < 0x10000) (rest : Text) :
    readUnits (writeUnit n ++ rest) = unitsBefore [n] (readUnits rest) := by
  have hunit : unit? (Nat.digitChar (n / 16 / 16 / 16 % 16)) (Nat.digitChar (n / 16 / 16 % 16))
      (Nat.digitChar (n / 16 % 16)) (Nat.digitChar (n % 16)) = some n := by
    simp only [unit?, Text.hexDigit?_digitChar (Nat.mod_lt _ (by decide : 0 < 16))]
    congr 1
    omega
  simp only [writeUnit, Text.hex, List.nil_append, List.cons_append, readUnits, hunit]
  rfl

theorem readUnits_escape {c e : Char} (he : e ≠ 'u') (h : escape? e = some c) (rest : Text) :
    readUnits ('\\' :: e :: rest) = unitsBefore [c.toNat] (readUnits rest) := by
  rw [readUnits]
  · simp only [h]
    rfl
  · simp [he]

theorem readUnits_literal {c : Char} (hquote : c ≠ '"') (hslash : c ≠ '\\') (hc : 0x20 ≤ c.toNat)
    (rest : Text) : readUnits (c :: rest) = unitsBefore [c.toNat] (readUnits rest) := by
  rw [readUnits]
  · simp only [Nat.not_lt.2 hc, if_false]
    rfl
  all_goals simp_all

inductive WrittenChar (c : Char) : Text → Prop
  | escape {e : Char} : e ∈ ['"', '\\', 'n', 'r', 't', 'f', 'b'] → escape? e = some c →
      c.toNat < 0x10000 → WrittenChar c ['\\', e]
  | literal : c ≠ '"' → c ≠ '\\' → 0x20 ≤ c.toNat → c.toNat < 0x7F → WrittenChar c [c]
  | unit : c.toNat < 0x10000 → WrittenChar c (writeUnit c.toNat)
  | pair : 0x10000 ≤ c.toNat → WrittenChar c
      (writeUnit (0xD800 + (c.toNat - 0x10000) / 0x400)
        ++ writeUnit (0xDC00 + (c.toNat - 0x10000) % 0x400))

theorem writtenChar_writeChar (c : Char) : WrittenChar c (writeChar c) := by
  unfold writeChar
  split_ifs with hquote hslash hline hreturn htab hfeed hback hplain hbasic
  · exact .escape (by simp) (by subst hquote; rfl) (by subst hquote; decide)
  · exact .escape (by simp) (by subst hslash; rfl) (by subst hslash; decide)
  · exact .escape (by simp) (by subst hline; rfl) (by subst hline; decide)
  · exact .escape (by simp) (by subst hreturn; rfl) (by subst hreturn; decide)
  · exact .escape (by simp) (by subst htab; rfl) (by subst htab; decide)
  · exact .escape (by simp) (by subst hfeed; rfl) (by subst hfeed; decide)
  · exact .escape (by simp) (by subst hback; rfl) (by subst hback; decide)
  · exact .literal hquote hslash hplain.1 hplain.2
  · exact .unit hbasic
  · exact .pair (Nat.not_lt.1 hbasic)

theorem toNat_lt (c : Char) : c.toNat < 0x110000 := by
  cases c.valid with
  | inl h => exact Nat.lt_trans h (by decide)
  | inr h => exact h.2

theorem readUnits_writeChar (c : Char) (rest : Text) :
    readUnits (writeChar c ++ rest) = unitsBefore (units c) (readUnits rest) := by
  have hlt := toNat_lt c
  have h := writtenChar_writeChar c
  generalize writeChar c = t at h
  cases h with
  | escape hmem he hc =>
    rw [units, if_pos hc]
    exact readUnits_escape (by rintro rfl; simp at hmem) he rest
  | literal hquote hslash hlow hhigh =>
    rw [units, if_pos (by omega)]
    exact readUnits_literal hquote hslash hlow rest
  | unit hc =>
    rw [units, if_pos hc]
    exact readUnits_writeUnit hc rest
  | pair hc =>
    rw [units, if_neg (by omega), List.append_assoc, readUnits_writeUnit (by omega),
      readUnits_writeUnit (by omega)]
    cases readUnits rest <;> rfl

theorem readUnits_flatMap_writeChar (t rest : Text) :
    readUnits (t.flatMap writeChar ++ '"' :: rest) = some (t.flatMap units, rest) := by
  induction t with
  | nil => rfl
  | cons c t ih =>
    rw [List.flatMap_cons, List.append_assoc, readUnits_writeChar, ih]
    rfl

theorem ofUnits_units_append (c : Char) (us : List Nat) :
    Loose.ofUnits (units c ++ us) = some c :: Loose.ofUnits us := by
  obtain ⟨hhigh, hlow⟩ := Loose.not_half c
  by_cases hc : c.toNat < 0x10000
  · rw [units, if_pos hc]
    cases us with
    | nil => simp [Loose.ofUnits, Loose.single_toNat]
    | cons u us => simp [Loose.ofUnits, hhigh, Loose.single_toNat]
  · have hlt := toNat_lt c
    have h₁ : Loose.isHigh (0xD800 + (c.toNat - 0x10000) / 0x400) = true := by
      simp only [Loose.isHigh, Bool.and_eq_true, decide_eq_true_eq]
      omega
    have h₂ : Loose.isLow (0xDC00 + (c.toNat - 0x10000) % 0x400) = true := by
      simp only [Loose.isLow, Bool.and_eq_true, decide_eq_true_eq]
      omega
    have hn : 0x10000 + (0xD800 + (c.toNat - 0x10000) / 0x400 - 0xD800) * 0x400
        + (0xDC00 + (c.toNat - 0x10000) % 0x400 - 0xDC00) = c.toNat := by omega
    rw [units, if_neg hc]
    simp only [List.cons_append, List.nil_append, Loose.ofUnits, h₁, h₂, Bool.and_self, if_true, hn,
      Char.ofNat_toNat]

theorem ofUnits_flatMap_units (t : Text) : Loose.ofUnits (t.flatMap units) = Loose.ofText t := by
  induction t with
  | nil => rfl
  | cons c t ih =>
    rw [List.flatMap_cons, ofUnits_units_append, ih]
    rfl

theorem readText_writeText (t rest : Text) :
    readText (t.flatMap writeChar ++ '"' :: rest) = some (.ofText t, rest) := by
  rw [readText, readUnits_flatMap_writeChar]
  exact congrArg (fun u => some (u, rest)) (ofUnits_flatMap_units t)

mutual

def isPlain : Json → Bool
  | number _ | garbled _ | mixed _ _ => false
  | list items => arePlain items
  | object members => havePlain members
  | _ => true

def arePlain : List Json → Bool
  | [] => true
  | item :: items => item.isPlain && arePlain items

def havePlain : List (Text × Json) → Bool
  | [] => true
  | (_, value) :: members => value.isPlain && havePlain members

end

theorem exists_write_eq {j : Json} (h : j.isPlain = true) :
    ∃ c t, j.write = c :: t ∧ c ∈ ['n', 't', 'f', '"', '[', '\x7b'] := by
  cases j with
  | null => exact ⟨_, _, rfl, by decide⟩
  | bool b => cases b <;> exact ⟨_, _, rfl, by decide⟩
  | number | garbled | mixed => cases h
  | text => exact ⟨_, _, rfl, by decide⟩
  | list => exact ⟨_, _, rfl, by decide⟩
  | object => exact ⟨_, _, rfl, by decide⟩

theorem skip_write {j : Json} (h : j.isPlain = true) (rest : Text) :
    skip (j.write ++ rest) = j.write ++ rest := by
  have hspace : ∀ c ∈ ['n', 't', 'f', '"', '[', '\x7b'], ¬ isSpace c = true := by decide
  obtain ⟨c, t, e, hc⟩ := exists_write_eq h
  rw [e, List.cons_append, skip, List.dropWhile_cons_of_neg (hspace c hc)]

theorem skip_of_not_space {c : Char} (h : isSpace c = false) (t : Text) :
    skip (c :: t) = c :: t := by
  rw [skip, List.dropWhile_cons_of_neg (by simp [h])]

theorem skip_space (t : Text) : skip (' ' :: t) = skip t := rfl

theorem readValue_text (bound : Nat) (t rest : Text) :
    readValue (bound + 1) (writeText t ++ rest) = some (text t, rest) := by
  simp only [writeText, List.cons_append, List.append_assoc, List.nil_append, readValue,
    readText_writeText, Option.map_some, ofLoose, Loose.whole?_ofText]

theorem readValue_list {bound : Nat} {items : List Json} {t rest : Text} (ht : skip t = t)
    (hne : t.head? ≠ some ']') (h : readItems bound t = some (items, rest)) :
    readValue (bound + 1) ('[' :: t) = some (list items, rest) := by
  simp only [readValue, ht]
  split
  · exact absurd rfl hne
  · rw [h]
    rfl

def loosened (members : List (Text × Json)) : List (Loose × Json) :=
  members.map fun (key, value) => (Loose.ofText key, value)

theorem ofMembers_loosened (members : List (Text × Json)) :
    ofMembers (loosened members) = object members := by
  have hwhole : (loosened members).mapM (fun e => e.1.whole?.map fun key => (key, e.2)) =
      some members := by
    induction members with
    | nil => rfl
    | cons e members ih =>
      rw [loosened, List.map_cons, List.mapM_cons, ← loosened, ih, Loose.whole?_ofText]
      rfl
  simp only [ofMembers, hwhole]

theorem readValue_object {bound : Nat} {members : List (Text × Json)} {t rest : Text}
    (ht : skip t = t) (hne : t.head? ≠ some '\x7d')
    (h : readMembers bound t = some (loosened members, rest)) :
    readValue (bound + 1) ('\x7b' :: t) = some (object members, rest) := by
  simp only [readValue, ht]
  split
  · exact absurd rfl hne
  · rw [h, Option.map_some, ofMembers_loosened]

theorem readItems_last {bound : Nat} {item : Json} {t rest : Text}
    (h : readValue bound t = some (item, ']' :: rest)) :
    readItems (bound + 1) t = some ([item], rest) := by
  simp only [readItems, h, skip_of_not_space (by decide : isSpace ']' = false)]

theorem readItems_more {bound : Nat} {item : Json} {items : List Json} {t u rest : Text}
    (h : readValue bound t = some (item, ',' :: ' ' :: u))
    (hu : readItems bound (skip u) = some (items, rest)) :
    readItems (bound + 1) t = some (item :: items, rest) := by
  simp only [readItems, h, skip_of_not_space (by decide : isSpace ',' = false), skip_space, hu]
  rfl

theorem readMembers_last {bound : Nat} {key : Text} {value : Json} {t rest : Text} (ht : skip t = t)
    (h : readValue bound t = some (value, '\x7d' :: rest)) :
    readMembers (bound + 1) (writeText key ++ ':' :: ' ' :: t) =
      some (loosened [(key, value)], rest) := by
  simp only [writeText, List.cons_append, List.append_assoc, List.nil_append, readMembers,
    readText_writeText, skip_of_not_space (by decide : isSpace ':' = false), skip_space, ht, h,
    skip_of_not_space (by decide : isSpace '\x7d' = false)]
  rfl

theorem readMembers_more {bound : Nat} {key : Text} {value : Json} {members : List (Text × Json)}
    {t u rest : Text} (ht : skip t = t) (h : readValue bound t = some (value, ',' :: ' ' :: u))
    (hu : readMembers bound (skip u) = some (loosened members, rest)) :
    readMembers (bound + 1) (writeText key ++ ':' :: ' ' :: t) =
      some (loosened ((key, value) :: members), rest) := by
  simp only [writeText, List.cons_append, List.append_assoc, List.nil_append, readMembers,
    readText_writeText, skip_of_not_space (by decide : isSpace ':' = false), skip_space, ht, h,
    skip_of_not_space (by decide : isSpace ',' = false), hu]
  rfl

theorem skip_intercalate_write {item : Json} (h : item.isPlain = true) (ts : List Text)
    (rest : Text) : skip ([',', ' '].intercalate (item.write :: ts) ++ rest) =
      [',', ' '].intercalate (item.write :: ts) ++ rest := by
  obtain ⟨u, e⟩ := Text.prefix_intercalate_cons [',', ' '] item.write ts
  rw [← e, List.append_assoc, skip_write h]

theorem skip_intercalate_writeText (key u : Text) (ts : List Text) (rest : Text) :
    skip ([',', ' '].intercalate ((writeText key ++ u) :: ts) ++ rest) =
      [',', ' '].intercalate ((writeText key ++ u) :: ts) ++ rest := by
  obtain ⟨v, e⟩ := Text.prefix_intercalate_cons [',', ' '] (writeText key ++ u) ts
  rw [← e]
  exact skip_of_not_space (by decide) _

mutual

theorem readValue_write : (j : Json) → j.isPlain = true → (rest : Text) → (bound : Nat) →
    j.write.length ≤ bound → readValue bound (j.write ++ rest) = some (j, rest)
  | j, h, rest, 0, hbound => by
    obtain ⟨c, t, e, -⟩ := exists_write_eq h
    rw [e] at hbound
    cases hbound
  | null, _, rest, bound + 1, _ => rfl
  | bool true, _, rest, bound + 1, _ => rfl
  | bool false, _, rest, bound + 1, _ => rfl
  | text t, _, rest, bound + 1, _ => readValue_text bound t rest
  | list [], _, rest, bound + 1, _ => rfl
  | list (item :: items), h, rest, bound + 1, hbound => by
    have hitem : item.isPlain = true := (Bool.and_eq_true_iff.1 h).1
    rw [write, List.length_append, List.length_cons, List.length_singleton] at hbound
    simp only [write, List.cons_append, List.append_assoc, List.nil_append]
    refine readValue_list (skip_intercalate_write hitem _ _) ?_
      (readItems_write item items h rest bound (by omega))
    obtain ⟨u, hu⟩ := Text.prefix_intercalate_cons [',', ' '] item.write (writeItems items)
    obtain ⟨c, t, e, hc⟩ := exists_write_eq hitem
    rw [writeItems, ← hu, e]
    rintro ⟨⟩
    simp at hc
  | object [], _, rest, bound + 1, _ => rfl
  | object ((key, value) :: members), h, rest, bound + 1, hbound => by
    rw [write, List.length_append, List.length_cons, List.length_singleton] at hbound
    simp only [write, List.cons_append, List.append_assoc, List.nil_append]
    refine readValue_object (skip_intercalate_writeText _ _ _ _) ?_
      (readMembers_write key value members h rest bound (by omega))
    obtain ⟨u, hu⟩ := Text.prefix_intercalate_cons [',', ' ']
      (writeText key ++ ':' :: ' ' :: value.write) (writeMembers members)
    rw [writeMembers, ← hu]
    rintro ⟨⟩

theorem readItems_write : (item : Json) → (items : List Json) →
    arePlain (item :: items) = true → (rest : Text) → (bound : Nat) →
    ([',', ' '].intercalate (writeItems (item :: items))).length < bound →
    readItems bound ([',', ' '].intercalate (writeItems (item :: items)) ++ ']' :: rest) =
      some (item :: items, rest)
  | item, [], h, rest, bound + 1, hbound => by
    have hitem : item.isPlain = true := (Bool.and_eq_true_iff.1 h).1
    simp only [writeItems, List.intercalate_singleton] at hbound ⊢
    exact readItems_last (readValue_write item hitem (']' :: rest) bound (Nat.lt_succ_iff.1 hbound))
  | item, next :: items, h, rest, bound + 1, hbound => by
    obtain ⟨hitem, hitems⟩ := Bool.and_eq_true_iff.1 h
    have hnext : next.isPlain = true := (Bool.and_eq_true_iff.1 hitems).1
    have e : [',', ' '].intercalate (writeItems (item :: next :: items)) =
        item.write ++ ',' :: ' ' :: [',', ' '].intercalate (writeItems (next :: items)) := by
      simp [writeItems]
    rw [e] at hbound ⊢
    simp only [List.length_append, List.length_cons] at hbound
    simp only [List.append_assoc, List.cons_append]
    refine readItems_more (readValue_write item hitem _ bound (by omega)) ?_
    rw [writeItems, skip_intercalate_write hnext]
    exact readItems_write next items hitems rest bound (by omega)

theorem readMembers_write : (key : Text) → (value : Json) → (members : List (Text × Json)) →
    havePlain ((key, value) :: members) = true → (rest : Text) → (bound : Nat) →
    ([',', ' '].intercalate (writeMembers ((key, value) :: members))).length < bound →
    readMembers bound ([',', ' '].intercalate (writeMembers ((key, value) :: members))
      ++ '\x7d' :: rest) = some (loosened ((key, value) :: members), rest)
  | key, value, [], h, rest, bound + 1, hbound => by
    have hvalue : value.isPlain = true := (Bool.and_eq_true_iff.1 h).1
    simp only [writeMembers, List.intercalate_singleton, List.length_append,
      List.length_cons] at hbound
    simp only [writeMembers, List.intercalate_singleton, List.append_assoc, List.cons_append]
    exact readMembers_last (skip_write hvalue _)
      (readValue_write value hvalue ('\x7d' :: rest) bound (by omega))
  | key, value, (key', value') :: members, h, rest, bound + 1, hbound => by
    obtain ⟨hvalue, hmembers⟩ := Bool.and_eq_true_iff.1 h
    have e : [',', ' '].intercalate (writeMembers ((key, value) :: (key', value') :: members)) =
        writeText key ++ ':' :: ' ' :: (value.write ++
          ',' :: ' ' :: [',', ' '].intercalate (writeMembers ((key', value') :: members))) := by
      simp [writeMembers]
    rw [e] at hbound ⊢
    simp only [List.length_append, List.length_cons] at hbound
    simp only [List.append_assoc, List.cons_append]
    refine readMembers_more (skip_write hvalue _)
      (readValue_write value hvalue _ bound (by omega)) ?_
    rw [writeMembers, skip_intercalate_writeText]
    exact readMembers_write key' value' members hmembers rest bound (by omega)

end

theorem read?_write {j : Json} (h : j.isPlain = true) : read? j.write = some j := by
  have hskip := skip_write h []
  have hread := readValue_write j h [] (2 * j.write.length + 2) (by omega)
  rw [List.append_nil] at hskip hread
  rw [read?, hskip, hread]
  rfl

def IsPrintable (c : Char) : Prop := 0x20 ≤ c.toNat ∧ c.toNat < 0x7F

instance : DecidablePred IsPrintable := fun _ => inferInstanceAs (Decidable (_ ∧ _))

theorem printable_digitChar {d : Nat} (h : d < 16) : IsPrintable (Nat.digitChar d) := by
  interval_cases d <;> decide

theorem printable_hex (width n : Nat) : ∀ c ∈ Text.hex width n, IsPrintable c := by
  induction width generalizing n with
  | zero => simp [Text.hex]
  | succ width ih =>
    intro c hc
    rcases List.mem_append.1 hc with hc | hc
    · exact ih _ c hc
    · rw [List.mem_singleton.1 hc]
      exact printable_digitChar (Nat.mod_lt _ (by decide))

theorem printable_writeUnit (n : Nat) : ∀ c ∈ writeUnit n, IsPrintable c :=
  List.forall_mem_cons.2 ⟨by decide, List.forall_mem_cons.2 ⟨by decide, printable_hex 4 n⟩⟩

theorem printable_writeChar (c : Char) : ∀ d ∈ writeChar c, IsPrintable d := by
  have h := writtenChar_writeChar c
  generalize writeChar c = t at h
  cases h with
  | @escape e hmem =>
    have hall : ∀ e ∈ ['"', '\\', 'n', 'r', 't', 'f', 'b'], IsPrintable e := by decide
    simpa using ⟨(by decide : IsPrintable '\\'), hall e hmem⟩
  | literal _ _ hlow hhigh => simpa using ⟨hlow, hhigh⟩
  | unit => exact printable_writeUnit _
  | pair => exact List.forall_mem_append.2 ⟨printable_writeUnit _, printable_writeUnit _⟩

theorem printable_writeText (t : Text) : ∀ c ∈ writeText t, IsPrintable c := by
  refine List.forall_mem_cons.2 ⟨by decide, List.forall_mem_append.2 ⟨?_, by decide⟩⟩
  intro c hc
  obtain ⟨d, -, hd⟩ := List.mem_flatMap.1 hc
  exact printable_writeChar d c hd

theorem printable_join {ts : List Text} (h : ∀ t ∈ ts, ∀ c ∈ t, IsPrintable c) :
    ∀ c ∈ [',', ' '].intercalate ts, IsPrintable c := by
  intro c hc
  rcases Text.mem_of_mem_intercalate hc with hc | ⟨t, ht, hc⟩
  · exact (by decide : ∀ c ∈ [',', ' '], IsPrintable c) c hc
  · exact h t ht c hc

mutual

theorem printable_write : (j : Json) → j.isPlain = true → ∀ c ∈ j.write, IsPrintable c
  | null, _ => by decide
  | bool true, _ => by decide
  | bool false, _ => by decide
  | text t, _ => printable_writeText t
  | list items, h => by
    refine List.forall_mem_cons.2 ⟨by decide, List.forall_mem_append.2 ⟨?_, by decide⟩⟩
    exact printable_join (printable_writeItems items h)
  | object members, h => by
    refine List.forall_mem_cons.2 ⟨by decide, List.forall_mem_append.2 ⟨?_, by decide⟩⟩
    exact printable_join (printable_writeMembers members h)

theorem printable_writeItems : (items : List Json) → arePlain items = true →
    ∀ t ∈ writeItems items, ∀ c ∈ t, IsPrintable c
  | [], _ => by simp [writeItems]
  | item :: items, h => by
    obtain ⟨hitem, hitems⟩ := Bool.and_eq_true_iff.1 h
    exact List.forall_mem_cons.2 ⟨printable_write item hitem, printable_writeItems items hitems⟩

theorem printable_writeMembers : (members : List (Text × Json)) → havePlain members = true →
    ∀ t ∈ writeMembers members, ∀ c ∈ t, IsPrintable c
  | [], _ => by simp [writeMembers]
  | (key, value) :: members, h => by
    obtain ⟨hvalue, hmembers⟩ := Bool.and_eq_true_iff.1 h
    refine List.forall_mem_cons.2 ⟨?_, printable_writeMembers members hmembers⟩
    refine List.forall_mem_append.2 ⟨printable_writeText key, ?_⟩
    exact List.forall_mem_cons.2 ⟨by decide,
      List.forall_mem_cons.2 ⟨by decide, printable_write value hvalue⟩⟩

end

end Json

end DocTag
