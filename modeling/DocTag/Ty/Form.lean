import DocTag.Text.Basic

/-!
The outermost form of a written type. A text is cut at the bars outside of all brackets; a single
piece is a nullable type, an array, a type in parentheses or a name, tried in this order. Every
part of a form is shorter than the text it was found in.
-/

namespace DocTag

def bracketStep (c : Char) : Int :=
  if c = '(' ∨ c = '<' ∨ c = '\x7b' then 1
  else if c = ')' ∨ c = '>' ∨ c = '\x7d' then -1
  else 0

namespace Text

/-- Splits at the separators of bracket depth zero, starting from the depth `depth`. The three
    kinds of brackets count alike, and the depth may go below zero. -/
def splitFrom (sep : Char) (depth : Int) : Text → List Text
  | [] => [[]]
  | c :: rest =>
    match splitFrom sep (depth + bracketStep c) rest with
    | [] => []
    | piece :: pieces =>
      if c = sep ∧ depth + bracketStep c = 0 then [] :: piece :: pieces
      else (c :: piece) :: pieces

def splitTop (sep : Char) (t : Text) : List Text := splitFrom sep 0 t

theorem splitFrom_ne_nil (sep : Char) (depth : Int) (t : Text) : splitFrom sep depth t ≠ [] := by
  induction t generalizing depth with
  | nil => simp [splitFrom]
  | cons c rest ih =>
    simp only [splitFrom]
    split
    · exact absurd ‹_› (ih _)
    · split <;> simp

theorem length_le_of_mem_splitFrom (sep : Char) (depth : Int) (t : Text) :
    ∀ piece ∈ splitFrom sep depth t,
      piece.length + (splitFrom sep depth t).length ≤ t.length + 1 := by
  induction t generalizing depth with
  | nil => simp [splitFrom]
  | cons c rest ih =>
    intro piece h
    specialize ih (depth + bracketStep c)
    simp only [splitFrom] at h ⊢
    cases e : splitFrom sep (depth + bracketStep c) rest with
    | nil => exact absurd e (splitFrom_ne_nil sep _ rest)
    | cons first pieces =>
      have hfirst := ih first (by simp [e])
      have hmem := fun q (hq : q ∈ pieces) => ih q (by simp [e, hq])
      simp only [e, List.length_cons] at h hfirst hmem ⊢
      split at h
      · rw [if_pos ‹_›]
        simp only [List.mem_cons, List.length_cons] at h ⊢
        rcases h with rfl | rfl | h
        · simp; omega
        · omega
        · have := hmem _ h; omega
      · rw [if_neg ‹_›]
        simp only [List.mem_cons, List.length_cons] at h ⊢
        rcases h with rfl | h
        · simp; omega
        · have := hmem _ h; omega

theorem length_dropWhile_le (p : Char → Bool) (t : Text) : (t.dropWhile p).length ≤ t.length :=
  (List.dropWhile_sublist p).length_le

theorem length_trim_le (t : Text) : t.trim.length ≤ t.length := by
  have h₁ := length_dropWhile_le isBlank t.trimStart.reverse
  have h₂ := length_dropWhile_le isBlank t
  simp only [trim, trimEnd, trimStart, List.length_reverse] at *
  omega

theorem length_add_of_isPrefixOf? {lead t rest : Text} (h : lead.isPrefixOf? t = some rest) :
    lead.length + rest.length = t.length := by
  induction lead generalizing t with
  | nil =>
    cases h
    simp
  | cons l lead ih =>
    cases t with
    | nil => cases h
    | cons c t =>
      change (if l == c then lead.isPrefixOf? t else none) = some rest at h
      rw [Option.ite_none_right_eq_some] at h
      have := ih h.2
      simp only [List.length_cons]
      omega

theorem length_add_of_isSuffixOf? {tail t rest : Text} (h : tail.isSuffixOf? t = some rest) :
    tail.length + rest.length = t.length := by
  obtain ⟨r, hr, rfl⟩ := Option.map_eq_some_iff.1 h
  simpa using length_add_of_isPrefixOf? hr

/-- What stands between an opening parenthesis at the start and a closing one at the end. The two
    need not belong together. -/
def unwrap? (t : Text) : Option Text := (['('].isPrefixOf? t).bind [')'].isSuffixOf?

theorem length_unwrap?_lt {t inner : Text} (h : t.unwrap? = some inner) :
    inner.length < t.length := by
  obtain ⟨r, hr, hi⟩ := Option.bind_eq_some_iff.1 h
  have hlead := length_add_of_isPrefixOf? hr
  have htail := length_add_of_isSuffixOf? hi
  simp only [List.length_singleton] at hlead htail
  omega

end Text

namespace Ty

inductive Form where
  | blank
  | union (members : List Text)
  | nullable (of : Text)
  | array (of : Text)
  | group (inner : Text)
  | name (t : Text)
deriving DecidableEq, Repr

namespace Form

def ofPiece (t : Text) : Form :=
  match t with
  | [] => blank
  | '?' :: rest => nullable rest
  | _ =>
    match ['[', ']'].isSuffixOf? t with
    | some inner => array ((Text.unwrap? inner).getD inner)
    | none =>
      match t.unwrap? with
      | some inner => group inner
      | none => name t

def ofText (raw : Text) : Form :=
  match raw.trim.splitTop '|' with
  | first :: second :: more => union (first :: second :: more)
  | _ => ofPiece raw.trim

def parts : Form → List Text
  | blank | name _ => []
  | union members => members
  | nullable t | array t | group t => [t]

theorem length_lt_of_mem_parts_ofPiece {t part : Text} (h : part ∈ (ofPiece t).parts) :
    part.length < t.length := by
  unfold ofPiece at h
  split at h
  · simp [parts] at h
  · simp only [parts, List.mem_singleton] at h
    simp [h]
  · split at h
    · rename_i inner hi
      have hlength := Text.length_add_of_isSuffixOf? hi
      simp only [List.length_cons, List.length_nil] at hlength
      simp only [parts, List.mem_singleton] at h
      subst h
      cases hu : Text.unwrap? inner with
      | none => simp; omega
      | some bare =>
        have := Text.length_unwrap?_lt hu
        simp; omega
    · split at h
      · rename_i hu
        simp only [parts, List.mem_singleton] at h
        exact h ▸ Text.length_unwrap?_lt hu
      · simp [parts] at h

theorem length_lt_of_mem_parts {raw part : Text} (h : part ∈ (ofText raw).parts) :
    part.length < raw.length := by
  have htrim := Text.length_trim_le raw
  unfold ofText at h
  split at h
  · rename_i e
    have := Text.length_le_of_mem_splitFrom '|' 0 raw.trim part (by
      rw [Text.splitTop] at e
      rw [e]
      exact h)
    simp only [Text.splitTop] at e
    simp only [e, List.length_cons] at this
    omega
  · have := length_lt_of_mem_parts_ofPiece h
    omega

end Form

end Ty

end DocTag
