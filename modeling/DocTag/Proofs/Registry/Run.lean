import DocTag.Proofs.Registry.Line

/-!
Runs of a registry: registrations, questions about names and creations of tags in any order. What a
name is answered with depends on nothing but the recogniser that was registered last for it.
-/

namespace DocTag.Registry

inductive Step where
  | register (name : Text) (recogniser : Recogniser)
  | recognises (name : Text)
  | create (s : Scope) (line : Text)

inductive Answer where
  | registered
  | recognises (known : Bool)
  | created (outcome : Except Fault Tag)

def step (r : Registry) : Step → Answer × Registry
  | .register name f => (.registered, r.register name f)
  | .recognises name => (.recognises (r.recognises name), r)
  | .create s line => (.created (r.create s line), r)

def after (r : Registry) (steps : List Step) : Registry :=
  steps.foldl (fun r x => (r.step x).2) r

def run (r : Registry) : List Step → List Answer
  | [] => []
  | x :: rest => (r.step x).1 :: run (r.step x).2 rest

@[simp] theorem after_cons (r : Registry) (x : Step) (rest : List Step) :
    r.after (x :: rest) = (r.step x).2.after rest := rfl

theorem length_run (r : Registry) (steps : List Step) : (r.run steps).length = steps.length := by
  induction steps generalizing r with
  | nil => rfl
  | cons x rest ih => simp [run, ih]

theorem run_append (r : Registry) (past future : List Step) :
    r.run (past ++ future) = r.run past ++ (r.after past).run future := by
  induction past generalizing r with
  | nil => rfl
  | cons x rest ih => simp [run, ih]

theorem getElem?_run (r : Registry) (past : List Step) (x : Step) (future : List Step) :
    (r.run (past ++ x :: future))[past.length]? = some ((r.after past).step x).1 := by
  rw [run_append, List.getElem?_append_right (length_run r past).le, length_run, Nat.sub_self]
  rfl

def Step.registered? (name : Text) : Step → Option Recogniser
  | .register other f => if other = name then some f else none
  | .recognises _ | .create _ _ => none

theorem Step.registered?_eq_some {name : Text} {f : Recogniser} {x : Step} :
    x.registered? name = some f ↔ x = .register name f := by
  cases x <;> simp [registered?]

theorem Step.registered?_eq_none {name : Text} {x : Step} :
    x.registered? name = none ↔ ∀ f, x ≠ .register name f := by
  simp [Option.eq_none_iff_forall_ne_some, registered?_eq_some]

theorem find?_step (r : Registry) (x : Step) (name : Text) :
    (r.step x).2.find? name = (x.registered? name).or (r.find? name) := by
  cases x with
  | register other f =>
    by_cases h : other = name
    · subst h
      simp [step, Step.registered?]
    · simp [step, Step.registered?, h, find?_register_of_ne r f (Ne.symm h)]
  | recognises => rfl
  | create => rfl

def last? (past : List Step) (name : Text) : Option Recogniser :=
  past.reverse.findSome? (Step.registered? name)

theorem last?_cons (x : Step) (rest : List Step) (name : Text) :
    last? (x :: rest) name = (last? rest name).or (x.registered? name) := by
  simp [last?, List.findSome?_append]

theorem last?_append (past later : List Step) (name : Text) :
    last? (past ++ later) name = (last? later name).or (last? past name) := by
  simp [last?, List.findSome?_append]

theorem last?_eq_none {past : List Step} {name : Text} :
    last? past name = none ↔ ∀ f, Step.register name f ∉ past := by
  simp only [last?, List.findSome?_eq_none_iff, List.mem_reverse, Step.registered?_eq_none]
  exact ⟨fun h f hf => h _ hf f rfl, fun h x hx f e => h f (e ▸ hx)⟩

theorem last?_eq_some {past : List Step} {name : Text} {f : Recogniser} :
    last? past name = some f ↔ ∃ before later,
      past = before ++ .register name f :: later ∧ ∀ g, Step.register name g ∉ later := by
  constructor
  · intro h
    obtain ⟨l₁, x, l₂, e, hx, hnone⟩ := List.findSome?_eq_some_iff.1 h
    obtain rfl := Step.registered?_eq_some.1 hx
    refine ⟨l₂.reverse, l₁.reverse, by simpa using congrArg List.reverse e, ?_⟩
    intro g hg
    exact Step.registered?_eq_none.1 (hnone _ (List.mem_reverse.1 hg)) g rfl
  · rintro ⟨before, later, rfl, hlater⟩
    rw [last?_append, last?_cons, last?_eq_none.2 hlater, Step.registered?_eq_some.2 rfl]
    rfl

theorem find?_after (r : Registry) (past : List Step) (name : Text) :
    (r.after past).find? name = (last? past name).or (r.find? name) := by
  -- By induction on the steps, which are searched from the last one to the first.
  induction past generalizing r with
  | nil => rfl
  | cons x rest ih => rw [after_cons, ih, find?_step, last?_cons, Option.or_assoc]

def Known (past : List Step) (name : Text) : Prop :=
  (∃ k : Kind, k.name = name) ∨ ∃ f, Step.register name f ∈ past

/-- The recogniser of a name after some steps. It is the one that is registered last, or else the
    one that a built-in tag has. -/
inductive InForce (valid : Text → Bool) : List Step → Text → Recogniser → Prop
  | registered {before later : List Step} {name : Text} {f : Recogniser} :
      (∀ g, Step.register name g ∉ later) →
      InForce valid (before ++ .register name f :: later) name f
  | builtin {past : List Step} {k : Kind} : (∀ g, Step.register k.name g ∉ past) →
      InForce valid past k.name (k.recogniser valid)

inductive Unread (valid : Text → Bool) (past : List Step) (s : Scope) (l : TagLine) : Prop
  | unknown : ¬ Known past l.name → Unread valid past s l
  | empty : l.body = [] → Unread valid past s l
  | missed {f : Recogniser} {why : Miss} : InForce valid past l.name f →
      f s l.body = .missed why → Unread valid past s l

/-- What comes of a line after some steps. -/
inductive Created (valid : Text → Bool) (past : List Step) (s : Scope) (line : Text) :
    Except Fault Tag → Prop
  | invalid : (∀ l, ¬ TagLine.Of line l) → Created valid past s line (.error (.tagLine line))
  | found {l : TagLine} {f : Recogniser} {tag : Tag} : l.Of line → l.body ≠ [] →
      InForce valid past l.name f → f s l.body = .found tag → Created valid past s line (.ok tag)
  | refused {l : TagLine} {f : Recogniser} {why : Fault} : l.Of line → l.body ≠ [] →
      InForce valid past l.name f → f s l.body = .refused why →
      Created valid past s line (.error why)
  | generic {l : TagLine} : l.Of line → Unread valid past s l →
      Created valid past s line (.ok (.generic l.name (some l.body.dedent)))

/-- The answer to a step, in terms of the steps before it. -/
inductive Answered (valid : Text → Bool) (past : List Step) : Step → Answer → Prop
  | register {name : Text} {f : Recogniser} : Answered valid past (.register name f) .registered
  | recognises {name : Text} {known : Bool} : (known = true ↔ Known past name) →
      Answered valid past (.recognises name) (.recognises known)
  | create {s : Scope} {line : Text} {outcome : Except Fault Tag} :
      Created valid past s line outcome →
      Answered valid past (.create s line) (.created outcome)

section Builtin

variable {valid : Text → Bool} {past : List Step} {s : Scope}

theorem inForce_iff {name : Text} {f : Recogniser} :
    InForce valid past name f ↔ ((builtin valid).after past).find? name = some f := by
  rw [find?_after, Option.or_eq_some_iff]
  constructor
  · intro h
    cases h with
    | registered hlater => exact .inl (last?_eq_some.2 ⟨_, _, rfl, hlater⟩)
    | builtin hpast => exact .inr ⟨last?_eq_none.2 hpast, find?_builtin_iff.2 ⟨_, rfl, rfl⟩⟩
  · rintro (hlast | ⟨hnone, hfind⟩)
    · obtain ⟨before, later, rfl, hlater⟩ := last?_eq_some.1 hlast
      exact .registered hlater
    · obtain ⟨k, rfl, rfl⟩ := find?_builtin_iff.1 hfind
      exact .builtin (last?_eq_none.1 hnone)

theorem known_iff (valid : Text → Bool) {name : Text} :
    Known past name ↔ ((builtin valid).after past).recognises name = true := by
  have hbuiltin : ((builtin valid).find? name).isSome ↔ ∃ k : Kind, k.name = name := by
    simp only [Option.isSome_iff_exists, find?_builtin_iff]
    exact ⟨fun ⟨_, k, hk, _⟩ => ⟨k, hk⟩, fun ⟨k, hk⟩ => ⟨_, k, hk, rfl⟩⟩
  have hlast : (last? past name).isSome ↔ ∃ f, Step.register name f ∈ past := by
    rw [← Option.ne_none_iff_isSome, Ne, last?_eq_none]
    push Not
    rfl
  rw [Known, recognises, find?_after, Option.isSome_or, Bool.or_eq_true, hbuiltin, hlast, or_comm]

theorem reading_of_inForce {l : TagLine} {f : Recogniser} (hf : InForce valid past l.name f)
    (hbody : l.body ≠ []) : ((builtin valid).after past).reading s l = f s l.body := by
  unfold reading
  rw [inForce_iff.1 hf]
  cases h : l.body with
  | nil => exact absurd h hbody
  | cons c t => rfl

theorem reading_of_not_known {l : TagLine} (h : ¬ Known past l.name) :
    ((builtin valid).after past).reading s l = .missed .unexplained := by
  rw [known_iff valid, recognises, Option.not_isSome_iff_eq_none] at h
  simp only [reading, h]

theorem reading_of_empty {r : Registry} {l : TagLine} (h : l.body = []) :
    r.reading s l = .missed .unexplained := by
  unfold reading
  rw [h]
  cases r.find? l.name <;> rfl

theorem Unread.exists_missed {l : TagLine} (h : Unread valid past s l) :
    ∃ why, ((builtin valid).after past).reading s l = .missed why := by
  by_cases hbody : l.body = []
  · exact ⟨_, reading_of_empty hbody⟩
  · cases h with
    | unknown hknown => exact ⟨_, reading_of_not_known hknown⟩
    | empty h => exact absurd h hbody
    | missed hf hread => exact ⟨_, (reading_of_inForce hf hbody).trans hread⟩

theorem created_of_line {line : Text} {l : TagLine} (hline : l.Of line) :
    Created valid past s line (((builtin valid).after past).create s line) := by
  by_cases hknown : Known past l.name
  · by_cases hbody : l.body = []
    · have hunread : Unread valid past s l := .empty hbody
      rw [create_of_missed hline hunread.exists_missed]
      exact .generic hline hunread
    · rw [known_iff valid, recognises, Option.isSome_iff_exists] at hknown
      obtain ⟨f, hf⟩ := hknown
      have hf : InForce valid past l.name f := inForce_iff.2 hf
      simp only [create, TagLine.ofText?_eq_some_iff.2 hline, reading_of_inForce hf hbody]
      cases hread : f s l.body with
      | found tag => exact .found hline hbody hf hread
      | missed why => exact .generic hline (.missed hf hread)
      | refused why => exact .refused hline hbody hf hread
  · have hunread : Unread valid past s l := .unknown hknown
    rw [create_of_missed hline hunread.exists_missed]
    exact .generic hline hunread

theorem created_create (valid : Text → Bool) (past : List Step) (s : Scope) (line : Text) :
    Created valid past s line (((builtin valid).after past).create s line) := by
  cases hline : TagLine.ofText? line with
  | some l => exact created_of_line (TagLine.ofText?_eq_some_iff.1 hline)
  | none =>
    have hinvalid : ∀ l, ¬ TagLine.Of line l := by
      intro l hl
      rw [TagLine.ofText?_eq_some_iff.2 hl] at hline
      cases hline
    simp only [create, hline]
    exact .invalid hinvalid

theorem Created.create_eq {line : Text} {outcome : Except Fault Tag}
    (h : Created valid past s line outcome) :
    ((builtin valid).after past).create s line = outcome := by
  cases h with
  | invalid hinvalid =>
    have hline : TagLine.ofText? line = none := by
      rw [Option.eq_none_iff_forall_ne_some]
      exact fun l hl => hinvalid l (TagLine.ofText?_eq_some_iff.1 hl)
    simp only [create, hline]
  | found hline hbody hf hread =>
    simp only [create, TagLine.ofText?_eq_some_iff.2 hline, reading_of_inForce hf hbody, hread]
  | refused hline hbody hf hread =>
    simp only [create, TagLine.ofText?_eq_some_iff.2 hline, reading_of_inForce hf hbody, hread]
  | generic hline hunread => exact create_of_missed hline hunread.exists_missed

theorem answered_iff {x : Step} {a : Answer} :
    Answered valid past x a ↔ a = (((builtin valid).after past).step x).1 := by
  constructor
  · intro h
    cases h with
    | register => rfl
    | recognises hknown =>
      rw [known_iff valid, ← Bool.eq_iff_iff] at hknown
      rw [hknown]
      rfl
    | create hcreated =>
      rw [← hcreated.create_eq]
      rfl
  · rintro rfl
    cases x with
    | register name f => exact .register
    | recognises name => exact .recognises (known_iff valid).symm
    | create s line => exact .create (created_create valid past s line)

end Builtin

inductive Step.About : Step → Text → Prop
  | recognises (name : Text) : About (.recognises name) name
  | create {s : Scope} {line : Text} {l : TagLine} : l.Of line → About (.create s line) l.name

theorem Step.about_create {s : Scope} {line name : Text} :
    (Step.create s line).About name ↔ ∃ body, TagLine.Of line ⟨name, body⟩ := by
  constructor
  · rintro ⟨⟩
    exact ⟨_, ‹_›⟩
  · rintro ⟨body, h⟩
    exact .create h

theorem step_eq_of_find? {r r' : Registry} {x : Step}
    (h : ∀ name, x.About name → r.find? name = r'.find? name) : (r.step x).1 = (r'.step x).1 := by
  cases x with
  | register => rfl
  | recognises name =>
    simp only [step, Registry.recognises, h name (.recognises name)]
  | create s line =>
    cases hline : TagLine.ofText? line with
    | none => simp only [step, create, hline]
    | some l =>
      have hfind := h l.name (.create (TagLine.ofText?_eq_some_iff.1 hline))
      simp only [step, create, hline, reading, hfind]

theorem find?_after_append {r : Registry} {past others later : List Step} {name : Text}
    (h : ∀ f, Step.register name f ∉ others) :
    (r.after (past ++ others ++ later)).find? name = (r.after (past ++ later)).find? name := by
  simp only [find?_after, last?_append, last?_eq_none.2 h, Option.none_or]

/-- Each step of a run has exactly the answer that the steps before it make it have, and of these
    only the registrations for the name that it is about count. -/
theorem run_builtin (valid : Text → Bool) :
    (∀ past x future, ∃ a, ((builtin valid).run (past ++ x :: future))[past.length]? = some a ∧
      ∀ b, Answered valid past x b ↔ b = a) ∧
    ∀ past others later x future,
      (∀ name, x.About name → ∀ f, Step.register name f ∉ others) →
      ((builtin valid).run (past ++ others ++ later ++ x :: future))[
          (past ++ others ++ later).length]? =
        ((builtin valid).run (past ++ later ++ x :: future))[(past ++ later).length]? := by
  constructor
  · intro past x future
    exact ⟨_, getElem?_run _ past x future, fun _ => answered_iff⟩
  · intro past others later x future h
    rw [getElem?_run, getElem?_run,
      step_eq_of_find? fun name hname => find?_after_append (h name hname)]

theorem run_builtin_since :
    let valid : Text → Bool := fun _ => true
    let version : Recogniser := fun _ body =>
      .found (.generic "since".toList (some ('v' :: body)))
    let past := [Step.register "since".toList version]
    let others := [Step.create {} "@".toList, .recognises "since".toList,
      .register "SINCE".toList fun _ _ => .missed .unexplained]
    let x := Step.create {} "@since 1.2".toList
    let a := Answer.created (.ok (.generic "since".toList (some "v1.2".toList)))
    ((builtin valid).run (past ++ others ++ [] ++ [x]))[4]? = some a ∧ Answered valid past x a := by
  intro valid version past others x a
  obtain ⟨hanswered, hothers⟩ := run_builtin valid
  have hline : TagLine.ofText? "@since 1.2".toList = some ⟨"since".toList, "1.2".toList⟩ := by
    decide +kernel
  have habout : ∀ name, x.About name → ∀ f, Step.register name f ∉ others := by
    intro name hname f
    obtain ⟨body, hbody⟩ := Step.about_create.1 hname
    cases hline.symm.trans (TagLine.ofText?_eq_some_iff.2 hbody)
    simp [others]
  have hrun : ((builtin valid).run (past ++ [x]))[1]? = some a := rfl
  obtain ⟨b, hb, hspec⟩ := hanswered past x []
  obtain rfl : a = b := Option.some.inj (hrun.symm.trans hb)
  exact ⟨(hothers past others [] x [] habout).trans hrun, (hspec a).2 rfl⟩

end DocTag.Registry
