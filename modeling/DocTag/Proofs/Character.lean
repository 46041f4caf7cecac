import DocTag.Scope
import DocTag.Text.Word

namespace DocTag

theorem not_isWord_of_isBlank {c : Char} (h : isBlank c = true) : isWord c = false := by
  have table : ∀ n ∈ [0x85, 0xA0, 0x1680, 0x2000, 0x2001, 0x2002, 0x2003, 0x2004, 0x2005, 0x2006,
      0x2007, 0x2008, 0x2009, 0x200A, 0x2028, 0x2029, 0x202F, 0x205F, 0x3000],
      wordRanges.has n = false := by decide +kernel
  have ascii : ∀ n < 0x21, ((Char.ofNat n).isAlphanum || Char.ofNat n == '_') = false := by decide
  simp only [isBlank, Bool.or_eq_true, Bool.and_eq_true, decide_eq_true_eq, beq_iff_eq] at h
  unfold isWord
  by_cases hc : c.toNat < 0x80
  · rw [if_pos hc]
    simpa using ascii c.toNat (by omega)
  · rw [if_neg hc]
    apply table
    simp only [List.mem_cons, List.not_mem_nil, or_false]
    omega

theorem not_isBlank_of_isWord {c : Char} (h : isWord c = true) : isBlank c = false := by
  cases hb : isBlank c with
  | false => rfl
  | true => rw [not_isWord_of_isBlank hb] at h; cases h

def isUncased (c : Char) : Bool := 0 < c.toNat && c.toNat < 0x80 && !c.isAlpha

theorem eq_toLower_iff {c d : Char} (hc : isUncased c = true) (hd : d.toNat < 0x80) :
    c = d.toLower ↔ c = d := by
  have ascii : ∀ n < 0x80, (Char.ofNat n).isAlpha = true ∨ (Char.ofNat n).toLower = Char.ofNat n :=
    by decide
  have letters : ∀ n < 0x80, (Char.ofNat n).isAlpha = true →
      (Char.ofNat n).toLower.isAlpha = true := by decide
  have hd' := ascii d.toNat hd
  have hl := letters d.toNat hd
  rw [Char.ofNat_toNat] at hd' hl
  rcases hd' with h | h
  · constructor
    · rintro rfl
      simp [isUncased, hl h] at hc
    · rintro rfl
      simp [isUncased, h] at hc
  · rw [h]

theorem lowerRuns_image {n m : Nat} (h : lowerRuns.findSome? (CaseRun.image? n) = some m) :
    m = 0x6B ∨ 0x80 ≤ m := by
  -- The one letter beyond ASCII whose image is an ASCII letter is the sign for the kelvin.
  have table : ∀ run ∈ lowerRuns, run.1 = run.2.1 ∧ run.2.2.2 = 0x6B ∨ 0x80 ≤ run.2.2.2 := by
    decide +kernel
  obtain ⟨⟨first, last, step, image⟩, hmem, himage⟩ := List.exists_of_findSome?_eq_some h
  have hrun := table _ hmem
  simp only [CaseRun.image?, Option.ite_none_right_eq_some, Option.some.injEq] at himage
  simp only at hrun
  omega

theorem toNat_ofNat_eq_or (n : Nat) : (Char.ofNat n).toNat = n ∨ (Char.ofNat n).toNat = 0 := by
  by_cases h : n.isValidChar
  · left
    rw [Char.ofNat, dif_pos h]
    rfl
  · right
    simp [Char.ofNat, h, Char.toNat]

theorem mem_lowerAt_iff {c d : Char} {before after : Text} (hc : isUncased c = true) :
    c ∈ lowerAt before d after ↔ c = d := by
  have hc' := hc
  simp only [isUncased, Bool.and_eq_true, decide_eq_true_eq] at hc'
  unfold lowerAt
  split
  · rename_i hd
    rw [List.mem_singleton, eq_toLower_iff hc hd]
  · rename_i hd
    have hne : c ≠ d := by
      rintro rfl
      omega
    simp only [hne, iff_false]
    split
    · split <;> · rw [List.mem_singleton]; rintro rfl; revert hc; decide
    · split
      · simp only [List.mem_cons, List.not_mem_nil, or_false]
        rintro (rfl | rfl) <;> revert hc <;> decide
      · split
        · rename_i m hm
          rw [List.mem_singleton]
          rintro rfl
          rcases lowerRuns_image hm with rfl | h
          · revert hc; decide
          · have := toNat_ofNat_eq_or m
            omega
        · simpa using hne

namespace Text

theorem mem_lowerAfter_iff {c : Char} (hc : isUncased c = true) (before t : Text) :
    c ∈ lowerAfter before t ↔ c ∈ t := by
  induction t generalizing before with
  | nil => rfl
  | cons d t ih => simp [lowerAfter, mem_lowerAt_iff hc, ih]

theorem mem_lower_iff {c : Char} (hc : isUncased c = true) (t : Text) : c ∈ t.lower ↔ c ∈ t :=
  mem_lowerAfter_iff hc [] t

end Text

end DocTag
