import DocTag.Proofs.Ty.WellFormed
import Mathlib.Logic.Function.Iterate

namespace DocTag

def Keyword.canonical : List Text :=
  ["array".toList, "bool".toList, "callable".toList, "false".toList, "float".toList, "int".toList,
    "iterable".toList, "mixed".toList, "never".toList, "null".toList, "object".toList,
    "parent".toList, "resource".toList, "self".toList, "static".toList, "string".toList,
    "true".toList, "void".toList]

theorem Keyword.name_mem_canonical (k : Keyword) : k.name ∈ canonical := by
  cases k <;> decide

namespace Ty

inductive Occurs (u : Ty) : Ty → Prop
  | whole : Occurs u u
  | array {t : Ty} : Occurs u t → Occurs u (.array t)
  | nullable {t : Ty} : Occurs u t → Occurs u (.nullable t)
  | member {t : Ty} {ts : List Ty} : t ∈ ts → Occurs u t → Occurs u (.compound ts)

theorem WellFormed.of_occurs {t u : Ty} (h : WellFormed t) (hu : Occurs u t) : WellFormed u := by
  induction hu with
  | whole => exact h
  | array _ ih =>
    cases h with
    | array h => exact ih h
  | nullable _ ih =>
    cases h with
    | nullable h => exact ih h
  | member hmem _ ih =>
    cases h with
    | compound _ hmembers => exact ih (hmembers _ hmem)

/-- What one call of the resolver makes of a text, if `next` answers the calls for its parts. -/
def resolveOnce (s : Scope) (next : Text → Except Fault Ty) (raw : Text) : Except Fault Ty :=
  match Form.ofText raw with
  | .blank => .error .emptyType
  | .union members => (members.mapM next).map .compound
  | .nullable of => (next of).map .nullable
  | .array of => (next of).map .array
  | .group inner => next inner
  | .name t => .ok ((atom t).qualify s)

variable {s : Scope} {raw : Text} {next next' : Text → Except Fault Ty}

theorem mapM_congr {ps : List Text} (h : ∀ p ∈ ps, next p = next' p) :
    ps.mapM next = ps.mapM next' := by
  induction ps with
  | nil => rfl
  | cons p ps ih =>
    rw [List.forall_mem_cons] at h
    rw [List.mapM_cons, List.mapM_cons, h.1, ih h.2]

theorem resolveOnce_congr (h : ∀ part ∈ (Form.ofText raw).parts, next part = next' part) :
    resolveOnce s next raw = resolveOnce s next' raw := by
  unfold resolveOnce
  cases e : Form.ofText raw with
  | blank | name => rfl
  | union members =>
    rw [e] at h
    have hmembers : members.mapM next = members.mapM next' := mapM_congr h
    simp only [hmembers]
  | nullable of | array of | group of => simp only [h of (by simp [e, Form.parts])]

theorem mapM_resolve (ps : List Text) : ps.mapM (resolve s) =
    match ps.mapM read? with
    | some ts => .ok (ts.map (qualify s))
    | none => .error .emptyType := by
  induction ps with
  | nil => rfl
  | cons p ps ih =>
    rw [List.mapM_cons, List.mapM_cons, ih, resolve]
    cases read? p with
    | none => rfl
    | some t => cases ps.mapM read? <;> rfl

theorem resolveOnce_resolve (s : Scope) : resolveOnce s (resolve s) = resolve s := by
  funext raw
  conv_rhs => rw [resolve, read?_eq]
  unfold resolveOnce
  cases Form.ofText raw with
  | blank | name => rfl
  | union members =>
    simp only [mapM_resolve]
    cases members.mapM read? with
    | none => rfl
    | some ts => simp only [Option.map_some, qualify, qualifyAll_eq_map]; rfl
  | nullable of | array of =>
    simp only [resolve]
    cases read? of <;> rfl
  | group inner => rfl

theorem iterate_resolveOnce {n : Nat} (h : raw.length < n) :
    (resolveOnce s)^[n] next raw = resolve s raw := by
  -- With more nested calls than the text has characters, those inside of all others do not count.
  induction n generalizing raw with
  | zero => cases h
  | succ n ih =>
    rw [Function.iterate_succ_apply']
    conv_rhs => rw [← resolveOnce_resolve]
    refine resolveOnce_congr fun part hpart => ih ?_
    have hlt := Form.length_lt_of_mem_parts hpart
    omega

/-- A resolved type is well formed at every depth, whatever the scope, and every call that is made
    on the way to it is made with a shorter text, so that there is an end to them. -/
theorem resolve_canonical (s : Scope) (raw : Text) :
    (∀ t, resolve s raw = .ok t →
      (∀ k, Occurs (.keyword k) t → k.name ∈ Keyword.canonical) ∧
      (∀ name, Occurs (.object name) t → name.head? = some '\\') ∧
      ∀ members, Occurs (.compound members) t → 2 ≤ members.length) ∧
    resolveOnce s (resolve s) = resolve s ∧
    (∀ part ∈ (Form.ofText raw).parts, part.length < raw.length) ∧
    (∀ next next', (∀ part ∈ (Form.ofText raw).parts, next part = next' part) →
      resolveOnce s next raw = resolveOnce s next' raw) ∧
    ∀ next, (resolveOnce s)^[raw.length + 1] next raw = resolve s raw := by
  refine ⟨fun t ht => ?_, resolveOnce_resolve s, fun _ => Form.length_lt_of_mem_parts,
    fun _ _ => resolveOnce_congr, fun _ => iterate_resolveOnce (Nat.lt_succ_self _)⟩
  have hwell := wellFormed_of_resolve ht
  refine ⟨fun k _ => k.name_mem_canonical, fun name hname => ?_, fun members hmembers => ?_⟩
  · cases hwell.of_occurs hname with
    | object hhead => exact hhead
  · cases hwell.of_occurs hmembers with
    | compound hlength _ => exact hlength

theorem resolve_canonical_hollow :
    let s : Scope := { aliases := [("Foo".toList, "\\".toList), ("Bar".toList, [])] }
    let raw := "?(Integer|FOO\\x)[]|bar".toList
    let t := Ty.compound [.nullable (.array (.compound [.keyword .int, .object "\\\\x".toList])),
      .object "\\".toList]
    resolve s raw = .ok t ∧ Occurs (.object "\\\\x".toList) t ∧
      ("\\\\x".toList).head? = some '\\' ∧
      (resolveOnce s)^[23] (fun _ => .error .emptyType) raw = .ok t := by
  intro s raw t
  have ht : resolve s raw = .ok t := by decide +kernel
  have hoccurs : Occurs (.object "\\\\x".toList) t :=
    .member (.head _) (.nullable (.array (.member (.tail _ (.head _)) .whole)))
  obtain ⟨hwell, -, -, -, hend⟩ := resolve_canonical s raw
  obtain ⟨-, hobject, -⟩ := hwell t ht
  exact ⟨ht, hoccurs, hobject _ hoccurs, (hend _).trans ht⟩

end Ty

end DocTag
