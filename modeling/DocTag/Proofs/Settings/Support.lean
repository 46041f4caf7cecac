import DocTag.Proofs.Datum
import DocTag.Settings.Basic

namespace DocTag.Settings

open Datum (Distinct addKey outline valueAt)

theorem bind_eq_ok_iff {m : Except ε α} {f : α → Except ε β} {b : β} :
    m >>= f = .ok b ↔ ∃ a, m = .ok a ∧ f a = .ok b := by
  cases m with
  | error why => exact ⟨nofun, nofun⟩
  | ok a => exact ⟨fun h => ⟨a, rfl, h⟩, fun ⟨_, ha, h⟩ => by cases ha; exact h⟩

theorem eq_ok_of_toOption {m : Except ε α} {a : α} (h : m.toOption = some a) : m = .ok a := by
  cases m with
  | error why => cases h
  | ok b => exact congrArg _ (Option.some.inj h)

variable {P E : Type}

def Place.Names (p : Place) (d : Datum) (path : Text) : Prop :=
  ∃ t, .text t ∈ d.parts ∧ p.expand t = .ok path

def Layer.IsDistinct (l : Layer) : Prop := ∀ f pairs, l f = some (.mapping pairs) → Distinct pairs

structure Merges (high low merged : List (Datum × Datum)) : Prop where
  lower_first : merged.map Prod.fst = (high.map Prod.fst).foldl addKey (low.map Prod.fst)
  -- what mappings in mappings hold is left open
  key_wise (key : Datum) :
    (valueAt key merged).map outline = ((valueAt key high).or (valueAt key low)).map outline

/-- What loading relies on: where the variables of the environment stand, which files are read, the
    merge, and what can be a text, a path or a mapping of texts. -/
structure Support.Lawful (support : Support P E) : Prop where
  environment_text {lead env l f} : support.environment lead env = .ok l →
    f ≠ .aliases →
      (l f = none ∧ ∀ v ∈ env, v.1.lower ≠ (lead ++ f.name).lower) ∨
        ∃ v ∈ env, v.1.lower = (lead ++ f.name).lower ∧ l f = some (.text v.2)
  environment_distinct {lead env l} : support.environment lead env = .ok l →
    l.IsDistinct
  entries_files {w : World} {files d} :
    (∀ path, w.Names d path → files.lookup path = w.files.lookup path) →
      support.entries { w with files } d = support.entries w d
  fields_distinct {w d entries l} : support.entries w d = .ok entries →
    support.fields entries = .ok l → l.IsDistinct
  merge_none {high low f} : high f = none → support.merge high low f = low f
  merge_rank {high low f d} : high f = some d →
    (∀ hs ls, d = .mapping hs → low f ≠ some (.mapping ls)) →
      support.merge high low f = some d
  merge_mapping {high low f hs ls} : high f = some (.mapping hs) → low f = some (.mapping ls) →
    Distinct hs → Distinct ls →
      ∃ merged, support.merge high low f = some (.mapping merged) ∧ Merges hs ls merged
  text_text (t) : support.text (.text t) = .ok t
  text_cases {d t} : support.text d = .ok t → d = .text t ∨ ∃ bs, d = .bytes bs
  path_text (t) : support.path (.text t) = .ok (some (normalPath t))
  path_cases {d path} : support.path d = .ok path → d.parts = [d] ∧ ∀ pairs, d ≠ .mapping pairs
  texts_iff {d m} : support.texts d = .ok m ↔
    ∃ pairs texts, d = .mapping pairs ∧ m = assignAll texts ∧
      List.Forall₂ (fun e t => support.text e.1 = .ok t.1 ∧ support.text e.2 = .ok t.2) pairs texts

namespace Support

def text? (support : Support P E) (d : Datum) : Option Text := (support.text d).toOption

variable {support : Support P E} {d : Datum} {t : Text}

theorem text?_eq_some_iff : support.text? d = some t ↔ support.text d = .ok t := by
  unfold text?
  cases support.text d <;> simp [Except.toOption]

namespace Lawful

theorem text_mapping (hsupport : support.Lawful) (pairs : List (Datum × Datum)) (t : Text) :
    support.text (.mapping pairs) ≠ .ok t := by
  intro h
  rcases hsupport.text_cases h with h | ⟨bs, h⟩ <;> cases h

theorem text?_outline (hsupport : support.Lawful) (d : Datum) :
    support.text? d.outline = support.text? d := by
  have hnone (pairs : List (Datum × Datum)) : support.text? (.mapping pairs) = none :=
    Option.eq_none_iff_forall_ne_some.2 fun t h =>
      hsupport.text_mapping pairs t (text?_eq_some_iff.1 h)
  cases d with
  | mapping pairs => exact (hnone []).trans (hnone pairs).symm
  | _ => rfl

theorem bind_text?_congr (hsupport : support.Lawful) {a b : Option Datum}
    (h : a.map outline = b.map outline) : a.bind support.text? = b.bind support.text? := by
  have hbind (o : Option Datum) : o.bind support.text? = (o.map outline).bind support.text? := by
    cases o with
    | none => rfl
    | some d => exact (hsupport.text?_outline d).symm
  rw [hbind a, hbind b, h]

theorem eq_of_asKey (hsupport : support.Lawful) {key key' : Datum} (h : support.text key = .ok t)
    (hkey : key'.asKey = key.asKey) : key' = key := by
  rcases hsupport.text_cases h with rfl | ⟨bs, rfl⟩
  all_goals cases key' <;> simp only [Datum.asKey] at hkey <;> (try split at hkey) <;> simp_all

end Lawful

end Support

end DocTag.Settings
