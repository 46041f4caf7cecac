import DocTag.Proofs.Blank
import DocTag.Proofs.Character

namespace DocTag

namespace Text

theorem mem_of_mem_stripOf {c d : Char} {t : Text} (h : d ∈ t.stripOf c) : d ∈ t := by
  rw [stripOf, List.mem_reverse] at h
  have h := (List.dropWhile_sublist _).subset h
  rw [List.mem_reverse] at h
  exact (List.dropWhile_sublist _).subset h

end Text

namespace Scope

structure Within (p : Char → Prop) (s : Scope) : Prop where
  ns : ∀ c ∈ s.ns, p c
  names : ∀ pair ∈ s.aliases, ∀ c ∈ pair.1, p c
  targets : ∀ pair ∈ s.aliases, ∀ c ∈ pair.2, p c

theorem Within.mono {p q : Char → Prop} {s : Scope} (h : s.Within p) (hpq : ∀ c, p c → q c) :
    s.Within q where
  ns c hc := hpq c (h.ns c hc)
  names pair hp c hc := hpq c (h.names pair hp c hc)
  targets pair hp c hc := hpq c (h.targets pair hp c hc)

theorem within_default (p : Char → Prop) : Within p {} := ⟨by simp, by simp, by simp⟩

theorem exists_of_target? {s : Scope} {head target : Text} (h : s.target? head = some target) :
    ∃ pair ∈ s.aliases, pair.1.lower = head.lower ∧ pair.2 = target := by
  obtain ⟨pair, hfind, rfl⟩ := Option.map_eq_some_iff.1 h
  exact ⟨pair, List.mem_of_find?_eq_some hfind, by simpa using List.find?_some hfind, rfl⟩

/-- A name loses a head, which an alias covers, and gains a lead, which the scope provides. -/
inductive Replaces (p : Char → Prop) : Text → Text → Prop
  | intro {lead head rest : Text} (lead_within : ∀ c ∈ lead, c = '\\' ∨ p c)
      (head_within : ∀ c ∈ head, isUncased c = true → p c)
      (cut : head = [] ∨ ∀ c ∈ rest.head?, c = '\\') : Replaces p (head ++ rest) (lead ++ rest)

theorem Within.replaces {p : Char → Prop} {s : Scope} (h : s.Within p) (name : Text) :
    Replaces p name (s.qualify name) := by
  unfold qualify
  split
  · exact @Replaces.intro p [] [] _ (by simp) (by simp) (.inl rfl)
  · split
    · rename_i target htarget
      obtain ⟨pair, hmem, hlower, rfl⟩ := exists_of_target? htarget
      have hsplit : Replaces p (name.takeWhile (· != '\\') ++ name.dropWhile (· != '\\'))
          (('\\' :: pair.2.stripOf '\\') ++ name.dropWhile (· != '\\')) := by
        refine .intro ?_ ?_ (.inr ?_)
        · intro c hc
          rcases List.mem_cons.1 hc with rfl | hc
          · exact .inl rfl
          · exact .inr (h.targets pair hmem c (Text.mem_of_mem_stripOf hc))
        · intro c hc hu
          rw [← Text.mem_lower_iff hu, ← hlower, Text.mem_lower_iff hu] at hc
          exact h.names pair hmem c hc
        · intro c hc
          simpa using Text.head?_dropWhile c hc
      rwa [List.takeWhile_append_dropWhile] at hsplit
    · split
      · exact @Replaces.intro p ['\\'] [] _ (by simp) (by simp) (.inl rfl)
      · rename_i ns hns
        have hsplit : Replaces p ([] ++ name) (('\\' :: s.ns.stripOf '\\' ++ ['\\']) ++ name) := by
          refine .intro ?_ (by simp) (.inl rfl)
          intro c hc
          simp only [List.cons_append, List.mem_cons, List.mem_append, List.not_mem_nil,
            or_false] at hc
          rcases hc with rfl | hc | rfl
          · exact .inl rfl
          · exact .inr (h.ns c (Text.mem_of_mem_stripOf hc))
          · exact .inl rfl
        simpa using hsplit

end Scope

end DocTag
