import DocTag.Tag.Author
import DocTag.Tag.Method

namespace DocTag

namespace Reading

variable {α β : Type} {f : α → β} {r : Reading α}

theorem map_eq_found {b : β} : r.map f = .found b ↔ ∃ a, r = .found a ∧ f a = b := by
  cases r <;> simp

theorem map_eq_refused {why : Fault} : r.map f = .refused why ↔ r = .refused why := by
  cases r <;> simp

theorem map_eq_missed {why : Miss} : r.map f = .missed why ↔ r = .missed why := by
  cases r <;> simp

theorem exists_map_eq_missed : (∃ why, r.map f = .missed why) ↔ ∃ why, r = .missed why :=
  exists_congr fun _ => map_eq_missed

end Reading

inductive Reading.Rel {α β : Type} (R : α → β → Prop) : Reading α → Reading β → Prop
  | found {a : α} {b : β} : R a b → Rel R (.found a) (.found b)
  | missed (why why' : Miss) : Rel R (.missed why) (.missed why')
  | refused {why why' : Fault} : why.message = why'.message →
      Rel R (.refused why) (.refused why')

namespace Reading.Rel

variable {α β γ δ : Type} {R : α → β → Prop} {r : Reading α} {r' : Reading β}

theorem of_eq {r r' : Reading α} (h : r = r') : Rel Eq r r' := by
  subst h
  cases r with
  | found a => exact .found rfl
  | missed why => exact .missed why why
  | refused => exact .refused rfl

theorem map {S : γ → δ → Prop} {f : α → γ} {g : β → δ} (h : Rel R r r')
    (hfg : ∀ a b, R a b → S (f a) (g b)) : Rel S (r.map f) (r'.map g) := by
  cases h with
  | found hab => exact .found (hfg _ _ hab)
  | missed why why' => exact .missed why why'
  | refused h => exact .refused h

theorem map_iff {S : γ → δ → Prop} {f : α → γ} {g : β → δ} :
    Rel S (r.map f) (r'.map g) ↔ Rel (fun a b => S (f a) (g b)) r r' := by
  refine ⟨fun h => ?_, fun h => h.map fun _ _ hab => hab⟩
  cases r <;> cases r' <;> cases h <;> constructor <;> assumption

theorem mono {S : α → β → Prop} (h : Rel R r r') (hRS : ∀ a b, R a b → S a b) : Rel S r r' := by
  cases h with
  | found hab => exact .found (hRS _ _ hab)
  | missed why why' => exact .missed why why'
  | refused h => exact .refused h

theorem exists_missed (h : Rel R r r') (hr : ∃ why, r = .missed why) :
    ∃ why, r' = .missed why := by
  obtain ⟨why, rfl⟩ := hr
  cases h with
  | missed _ why' => exact ⟨why', rfl⟩

theorem missed_iff {why : Miss} : Rel R (.missed why) r' ↔ ∃ why', r' = .missed why' := by
  refine ⟨fun h => h.exists_missed ⟨why, rfl⟩, ?_⟩
  rintro ⟨why', rfl⟩
  exact .missed why why'

end Reading.Rel

namespace Method

def Signature.typeText (sig : Signature) : Text :=
  if sig.returns.isEmpty then "void".toList else sig.returns

def Signature.method (sig : Signature) (h : sig.name ≠ []) (returns : Ty)
    (parameters : List Parameter) : Method where
  name := sig.name
  returns := returns
  isStatic := sig.isStatic
  description := some sig.description.dedent
  parameters := parameters
  name_ne_nil := h

theorem read_of_none {body : Text} (h : Signature.ofBody? body = none) (s : Scope) :
    read s body = .missed (.notMethod body) := by
  unfold read
  split
  · rfl
  · rename_i hsome
    rw [h] at hsome
    cases hsome

theorem read_of_some {body : Text} {sig : Signature} (h : Signature.ofBody? body = some sig)
    (s : Scope) : read s body =
      match Ty.resolve s sig.typeText with
      | .error why => .refused why
      | .ok returns => (readArguments s sig.name sig.arguments.arguments).map
          (sig.method (Signature.name_ne_nil_of_ofBody? h) returns) := by
  unfold read
  split
  · rename_i hnone
    rw [h] at hnone
    cases hnone
  · rename_i hsig
    obtain rfl := Option.some.inj (h.symm.trans hsig)
    rfl

end Method

end DocTag
