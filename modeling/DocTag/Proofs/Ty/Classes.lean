import DocTag.Proofs.Blank
import DocTag.Proofs.Ty.Read

namespace DocTag

namespace Text

theorem isInfix_trim (t : Text) : t.trim <:+: t := by
  obtain ⟨a, b, -, -, e⟩ := exists_trim t
  exact ⟨a, b, e.symm⟩

end Text

namespace Ty

open Text

theorem Form.infix_of_mem_parts {raw part : Text} (h : part ∈ (ofText raw).parts) :
    part <:+: raw := by
  refine List.IsInfix.trans ?_ (isInfix_trim raw)
  have hhas := has_ofText raw
  generalize ofText raw = form at h hhas
  generalize raw.trim = trimmed at hhas
  cases hhas with
  | blank => cases h
  | union => exact infix_intercalate_of_mem h
  | nullable =>
    rw [List.mem_singleton.1 h]
    exact (List.suffix_cons _ _).isInfix
  | @wrapped t =>
    rw [List.mem_singleton.1 h]
    exact ⟨['('], [')', '[', ']'], by simp⟩
  | @array t =>
    rw [List.mem_singleton.1 h]
    exact (List.prefix_append t _).isInfix
  | @group t =>
    rw [List.mem_singleton.1 h]
    exact ⟨['('], [')'], by simp⟩
  | name => cases h

mutual

def mask : Ty → Ty
  | .keyword k => .keyword k
  | .this => .this
  | .object _ => .object []
  | .array of => .array of.mask
  | .nullable of => .nullable of.mask
  | .compound members => .compound (maskAll members)

def maskAll : List Ty → List Ty
  | [] => []
  | t :: ts => t.mask :: maskAll ts

end

mutual

def classes : Ty → List Text
  | .keyword _ | .this => []
  | .object name => [name]
  | .array of | .nullable of => of.classes
  | .compound members => classesAll members

def classesAll : List Ty → List Text
  | [] => []
  | t :: ts => t.classes ++ classesAll ts

end

mutual

@[simp] theorem mask_qualify (s : Scope) : (t : Ty) → (t.qualify s).mask = t.mask
  | .keyword _ | .this | .object _ => rfl
  | .array of => by simp only [qualify, mask, mask_qualify s of]
  | .nullable of => by simp only [qualify, mask, mask_qualify s of]
  | .compound members => by simp only [qualify, mask, maskAll_qualifyAll s members]

theorem maskAll_qualifyAll (s : Scope) : (ts : List Ty) → maskAll (qualifyAll s ts) = maskAll ts
  | [] => rfl
  | t :: ts => by simp only [qualifyAll, maskAll, mask_qualify s t, maskAll_qualifyAll s ts]

end

mutual

@[simp] theorem classes_qualify (s : Scope) :
    (t : Ty) → (t.qualify s).classes = t.classes.map s.qualify
  | .keyword _ | .this | .object _ => rfl
  | .array of => by simp only [qualify, classes, classes_qualify s of]
  | .nullable of => by simp only [qualify, classes, classes_qualify s of]
  | .compound members => by simp only [qualify, classes, classesAll_qualifyAll s members]

theorem classesAll_qualifyAll (s : Scope) :
    (ts : List Ty) → classesAll (qualifyAll s ts) = (classesAll ts).map s.qualify
  | [] => rfl
  | t :: ts => by
    simp only [qualifyAll, classesAll, classes_qualify s t, classesAll_qualifyAll s ts,
      List.map_append]

end

theorem mem_classesAll {ts : List Ty} {name : Text} :
    name ∈ classesAll ts ↔ ∃ t ∈ ts, name ∈ t.classes := by
  induction ts with
  | nil => simp [classesAll]
  | cons t ts ih => simp [classesAll, ih]

theorem mem_classes_atom {u name : Text} (h : name ∈ (atom u).classes) : name = u := by
  unfold atom at h
  split at h
  · cases h
  · split at h
    · cases h
    · exact List.mem_singleton.1 h

theorem infix_of_mem_classes {raw : Text} {t : Ty} (h : read? raw = some t) :
    ∀ name ∈ t.classes, name <:+: raw := by
  have part : ∀ {raw part name : Text}, part ∈ (Form.ofText raw).parts → name <:+: part →
      name <:+: raw := fun hpart hname => hname.trans (Form.infix_of_mem_parts hpart)
  refine read?_induction (motive := fun raw t => ∀ name ∈ t.classes, name <:+: raw)
    ?_ ?_ ?_ ?_ ?_ h
  · intro raw members ts hform ih name hname
    obtain ⟨t, ht, ht'⟩ := mem_classesAll.1 hname
    obtain ⟨p, hp, hpt⟩ : ∃ p ∈ members, ∀ name ∈ t.classes, name <:+: p := by
      clear hform hname ht'
      induction ih with
      | nil => cases ht
      | @cons p u ps us hp _ ihs =>
        rcases List.mem_cons.1 ht with rfl | ht
        · exact ⟨p, by simp, hp⟩
        · obtain ⟨q, hq, h⟩ := ihs ht
          exact ⟨q, by simp [hq], h⟩
    exact part (by rwa [hform]) (hpt name ht')
  · intro raw of t hform ih name hname
    exact part (by simp [hform, Form.parts]) (ih name hname)
  · intro raw of t hform ih name hname
    exact part (by simp [hform, Form.parts]) (ih name hname)
  · intro raw inner t hform ih name hname
    exact part (by simp [hform, Form.parts]) (ih name hname)
  · intro raw u hform name hname
    have hhas := Form.has_ofText raw
    rw [hform] at hhas
    rw [mem_classes_atom hname]
    generalize e : raw.trim = trimmed at hhas
    cases hhas
    rw [← e]
    exact isInfix_trim raw

end Ty

end DocTag
