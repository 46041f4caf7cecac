import DocTag.Proofs.Pattern
import DocTag.Proofs.Tag.Author

namespace DocTag.Author

open Text Pattern

/-- Name and address as they stand in a body. The first opening bracket ends the name, and the
    first closing bracket after it ends the body. -/
inductive Byline : Text → Text → Text → Prop
  | bare {name : Text} : '<' ∉ name → Byline name name []
  | full {name email : Text} : '<' ∉ name → '>' ∉ email →
      Byline (name ++ '<' :: (email ++ ['>'])) name email

theorem Byline.not_mem_name {t name email : Text} (h : Byline t name email) : '<' ∉ name := by
  cases h with
  | bare hname | full hname => exact hname

theorem Byline.not_mem_email {t name email : Text} (h : Byline t name email) : '>' ∉ email := by
  cases h with
  | bare => exact List.not_mem_nil
  | full _ hemail => exact hemail

theorem byline_render {a : Author} (hname : '<' ∉ a.name) (hemail : '>' ∉ a.email) :
    Byline a.render a.name a.email := by
  rw [render, List.append_assoc]
  exact .full hname hemail

def Unclosed (t : Text) : Prop :=
  ∃ name rest, t = name ++ '<' :: rest ∧ '<' ∉ name ∧
    ∀ email more, rest = email ++ '>' :: more → '>' ∉ email → more ≠ []

theorem split?_full {name email : Text} (hname : '<' ∉ name) (hemail : '>' ∉ email) :
    split? (name ++ '<' :: (email ++ ['>'])) = some (name, email) := by
  have hrun := bne_of_not_mem hemail
  have hhead : ∀ c ∈ ['>'].head?, (c != '>') = false := by
    rintro _ ⟨⟩
    rfl
  rw [split?_append hname, if_pos (dropWhile_append_run hrun hhead),
    takeWhile_append_run hrun hhead]

theorem exists_email_or_eq_none {name : Text} (hname : '<' ∉ name) (rest : Text) :
    (∃ email, '>' ∉ email ∧ rest = email ++ ['>']) ∨ split? (name ++ '<' :: rest) = none := by
  by_cases hclose : rest.dropWhile (· != '>') = ['>']
  · refine .inl ⟨rest.takeWhile (· != '>'), fun hmem => ?_, ?_⟩
    · simpa using List.mem_takeWhile_imp hmem
    · rw [← hclose, List.takeWhile_append_dropWhile]
  · exact .inr (by rw [split?_append hname, if_neg hclose])

theorem split?_eq_some_iff {t name email : Text} :
    split? t = some (name, email) ↔ Byline t name email := by
  constructor
  · intro h
    by_cases hmem : '<' ∈ t
    · obtain ⟨lead, rest, rfl, hlead⟩ := List.eq_append_cons_of_mem hmem
      rcases exists_email_or_eq_none hlead rest with ⟨address, haddress, rfl⟩ | hnone
      · rw [split?_full hlead haddress] at h
        cases h
        exact .full hlead haddress
      · rw [hnone] at h
        cases h
    · rw [split?_of_not_mem hmem] at h
      cases h
      exact .bare hmem
  · rintro (hname | ⟨hname, hemail⟩)
    · exact split?_of_not_mem hname
    · exact split?_full hname hemail

theorem split?_eq_none_iff {t : Text} : split? t = none ↔ Unclosed t := by
  constructor
  · intro h
    by_cases hmem : '<' ∈ t
    · obtain ⟨name, rest, rfl, hname⟩ := List.eq_append_cons_of_mem hmem
      refine ⟨name, rest, rfl, hname, ?_⟩
      rintro email _ rfl hemail rfl
      rw [split?_full hname hemail] at h
      cases h
    · rw [split?_of_not_mem hmem] at h
      cases h
  · rintro ⟨name, rest, rfl, hname, hopen⟩
    refine (exists_email_or_eq_none hname rest).resolve_left ?_
    rintro ⟨email, hemail, rfl⟩
    exact hopen email [] rfl hemail rfl

section Grammar

inductive Part where
  | name
  | email
deriving DecidableEq

def addressPattern : Pattern Part :=
  .seq (.char (· == '<')) (.seq (.group .email (.star (.char (· != '>')))) (.char (· == '>')))

def pattern : Pattern Part :=
  .seq (.group .name (.star (.char (· != '<')))) (opt addressPattern)

def ofCaptures (m : Captures Part) : Text × Text :=
  ((m.lookup .name).getD [], (m.lookup .email).getD [])

theorem matches_until {i : Part} {d : Char} {u : Text} {m : Captures Part} :
    Matches (.group i (.star (.char (· != d)))) u m ↔ d ∉ u ∧ m = [(i, u)] := by
  simp only [matches_group, matches_star_char]
  constructor
  · rintro ⟨_, rfl, hu, rfl⟩
    exact ⟨fun hmem => by simpa using hu d hmem, rfl⟩
  · rintro ⟨hu, rfl⟩
    exact ⟨[], rfl, bne_of_not_mem hu, rfl⟩

theorem matches_addressPattern {u : Text} {m : Captures Part} :
    Matches addressPattern u m ↔
      ∃ email, '>' ∉ email ∧ u = '<' :: (email ++ ['>']) ∧ m = [(.email, email)] := by
  simp only [addressPattern, matches_seq, matches_char, matches_until, beq_iff_eq]
  constructor
  · rintro ⟨_, _, _, _, rfl, rfl, ⟨⟨c, rfl, rfl⟩, rfl⟩, email, _, _, _, rfl, rfl, ⟨hemail, rfl⟩,
      ⟨d, rfl, rfl⟩, rfl⟩
    exact ⟨email, hemail, rfl, rfl⟩
  · rintro ⟨email, hemail, rfl, rfl⟩
    exact ⟨['<'], _, [], _, rfl, rfl, ⟨⟨'<', rfl, rfl⟩, rfl⟩, email, ['>'], _, [], rfl, rfl,
      ⟨hemail, rfl⟩, ⟨'>', rfl, rfl⟩, rfl⟩

theorem byline_of_matches {t : Text} {m : Captures Part} (h : Matches pattern t m) :
    Byline t (ofCaptures m).1 (ofCaptures m).2 := by
  simp only [pattern, opt, matches_seq, matches_alt, matches_until, matches_addressPattern,
    matches_empty] at h
  obtain ⟨name, _, _, _, rfl, rfl, ⟨hname, rfl⟩, ⟨email, hemail, rfl, rfl⟩ | ⟨rfl, rfl⟩⟩ := h
  · exact .full hname hemail
  · rw [List.append_nil]
    exact .bare hname

theorem Byline.exists_matches {t name email : Text} (h : Byline t name email) :
    ∃ m, Matches pattern t m := by
  cases h with
  | bare hname =>
    have hnone : Matches (opt addressPattern) [] [] := .right .empty
    have hmatch : Matches pattern (t ++ []) _ := .seq (matches_until.2 ⟨hname, rfl⟩) hnone
    rw [List.append_nil] at hmatch
    exact ⟨_, hmatch⟩
  | full hname hemail =>
    exact ⟨_, .seq (matches_until.2 ⟨hname, rfl⟩)
      (.left (matches_addressPattern.2 ⟨email, hemail, rfl, rfl⟩))⟩

theorem map_full?_pattern (t : Text) : (pattern.full? t).map ofCaptures = split? t := by
  -- A body is divided as its grammar has it, which leaves no choice.
  cases h : pattern.full? t with
  | none =>
    cases hsplit : split? t with
    | none => rfl
    | some parts =>
      obtain ⟨name, email⟩ := parts
      obtain ⟨m, hm⟩ := (split?_eq_some_iff.1 hsplit).exists_matches
      exact absurd hm (not_matches_of_full? h)
  | some m => exact (split?_eq_some_iff.2 (byline_of_matches (matches_of_full? h))).symm

end Grammar

theorem dropNewline_spec (content : Text) : content = dropNewline content ++ ['\n'] ∨
    content = dropNewline content ∧ content.getLast? ≠ some '\n' := by
  unfold dropNewline
  cases h : ['\n'].isSuffixOf? content with
  | some rest => exact .inl (List.isSuffixOf?_eq_some_iff_append_eq.1 h).symm
  | none =>
    refine .inr ⟨rfl, fun hlast => ?_⟩
    obtain ⟨rest, rfl⟩ := List.getLast?_eq_some_iff.1 hlast
    rw [List.isSuffixOf?_eq_some_iff_append_eq.2 rfl] at h
    cases h

theorem dropNewline_render (a : Author) : dropNewline a.render = a.render := by
  rcases dropNewline_spec a.render with h | h
  · have hlast := congrArg List.getLast? h
    rw [render, List.getLast?_concat, List.getLast?_concat] at hlast
    cases hlast
  · exact h.1.symm

section Read

variable (valid : Text → Bool) {content name email : Text}

theorem read_of_byline (h : Byline (dropNewline content) name email) : read valid content =
    if email.trim ≠ [] ∧ valid email.trim = false then .refused .authorEmail
    else .found ⟨name.trim, email.trim⟩ := by
  simp only [read, split?_eq_some_iff.2 h, ofParts, faults]
  by_cases hempty : email.trim = []
  · simp [hempty]
  · cases valid email.trim <;> simp [hempty]

theorem read_render {a : Author} (h : read valid content = .found a) :
    read valid a.render = .found a := by
  cases hsplit : split? (dropNewline content) with
  | none =>
    obtain ⟨why, hmissed⟩ := (exists_missed_iff valid).2 hsplit
    rw [hmissed] at h
    cases h
  | some parts =>
    obtain ⟨name, email⟩ := parts
    have hbyline := split?_eq_some_iff.1 hsplit
    rw [read_of_byline valid hbyline] at h
    split at h
    · cases h
    · rename_i haddress
      cases h
      have hname : '<' ∉ name.trim := fun h => hbyline.not_mem_name (mem_of_mem_trim h)
      have hemail : '>' ∉ email.trim := fun h => hbyline.not_mem_email (mem_of_mem_trim h)
      have hrender := byline_render (a := ⟨name.trim, email.trim⟩) hname hemail
      rw [← dropNewline_render] at hrender
      rw [read_of_byline valid hrender, trim_trim, trim_trim, if_neg haddress]

end Read

/-- A body is not read just if its brackets are not closed at its end, and refused just if there is
    an address that is not valid. A newline at the end is no part of the body. -/
theorem recognises_byline (valid : Text → Bool) (content : Text) :
    ∃ body : Text, (content = body ++ ['\n'] ∨ content = body ∧ content.getLast? ≠ some '\n') ∧
      ((∃ why, read valid content = .missed why) ↔ Unclosed body) ∧
      (¬ Unclosed body → ∃ name email, Byline body name email ∧
        (pattern.full? body).map ofCaptures = some (name, email) ∧ read valid content =
          if email.trim ≠ [] ∧ valid email.trim = false then .refused .authorEmail
          else .found ⟨name.trim, email.trim⟩) ∧
      ∀ a, read valid content = .found a → read valid a.render = .found a := by
  refine ⟨dropNewline content, dropNewline_spec content, ?_, fun hclosed => ?_,
    fun _ => read_render valid⟩
  · rw [exists_missed_iff, split?_eq_none_iff]
  · rw [← split?_eq_none_iff] at hclosed
    obtain ⟨⟨name, email⟩, hsplit⟩ := Option.ne_none_iff_exists'.1 hclosed
    have hbyline := split?_eq_some_iff.1 hsplit
    refine ⟨name, email, hbyline, ?_, read_of_byline valid hbyline⟩
    rw [map_full?_pattern, hsplit]

theorem recognises_byline_newline :
    let valid : Text → Bool := fun t => '@' ∈ t
    read valid " a> b\t< \"<\"@c.de >\n".toList = .found ⟨"a> b".toList, "\"<\"@c.de".toList⟩ ∧
      read valid "a> b<\"<\"@c.de>".toList = .found ⟨"a> b".toList, "\"<\"@c.de".toList⟩ := by
  intro valid
  have hread : read valid " a> b\t< \"<\"@c.de >\n".toList =
      .found ⟨"a> b".toList, "\"<\"@c.de".toList⟩ := by decide
  obtain ⟨_, -, -, -, hrender⟩ := recognises_byline valid " a> b\t< \"<\"@c.de >\n".toList
  exact ⟨hread, hrender _ hread⟩

end DocTag.Author
