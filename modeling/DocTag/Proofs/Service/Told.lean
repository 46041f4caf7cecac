import DocTag.Proofs.Json
import DocTag.Proofs.Service.Run

namespace DocTag

namespace Json

def keys : Json → List Text
  | object members => members.map Prod.fst
  | _ => []

def Says (j : Json) (key : String) (value : Json) : Prop := j.get? key.toList = some value

theorem arePlain_map {items : List α} {f : α → Json} (h : ∀ a ∈ items, (f a).isPlain = true) :
    arePlain (items.map f) = true := by
  induction items with
  | nil => rfl
  | cons a items ih =>
    obtain ⟨ha, hitems⟩ := List.forall_mem_cons.1 h
    exact Bool.and_eq_true_iff.2 ⟨ha, ih hitems⟩

end Json

structure Parameter.Told (p : Parameter) (j : Json) : Prop where
  name : j.Says "variable_name" (.text p.name)
  type : j.Says "type" (.text p.type.render)
  byReference : j.Says "is_reference" (.bool p.byReference)
  variadic : j.Says "is_variadic" (.bool p.variadic)
  description : j.Says "description" (.text (p.description.getD []))

def Parameter.keys : List Text :=
  ["variable_name", "type", "is_reference", "is_variadic", "description"].map String.toList

structure Parameter.Listed (p : Parameter) (j : Json) : Prop where
  name : j.Says "name" (.text p.name)
  type : j.Says "type" (.text p.type.render)
  keys : j.keys = ["name", "type"].map String.toList

structure Method.Told (m : Method) (j : Json) : Prop where
  name : j.Says "method_name" (.text m.name)
  isStatic : j.Says "is_static" (.bool m.isStatic)
  returns : j.Says "return_type" (.text m.returns.render)
  parameters : ∃ items, j.Says "parameters" (.list items) ∧
    List.Forall₂ (fun p i => p.Told i ∧ i.keys = Parameter.keys) m.parameters items
  arguments : ∃ items, j.Says "arguments" (.list items) ∧
    List.Forall₂ Parameter.Listed m.parameters items

inductive Tag.FieldsTold (j : Json) : Tag → List Text → Prop
  | method {m : Method} : m.Told j → FieldsTold j (.method m)
      (["method_name", "is_static", "return_type", "parameters", "arguments", "description"].map
        String.toList)
  | param {p : Parameter} : p.Told j → FieldsTold j (.param p) Parameter.keys
  | author {a : Author} : j.Says "author_name" (.text a.name) →
      j.Says "author_email" (.text a.email) →
      FieldsTold j (.author a) (["author_name", "author_email", "description"].map String.toList)
  | generic {name : Text} {description : Option Text} :
      FieldsTold j (.generic name description) ["description".toList]

structure Tag.Told (tag : Tag) (more : List Text) (j : Json) : Prop where
  recognized : j.Says "recognized" (.bool tag.isRecognized)
  name : j.Says "name" (.text tag.name)
  description : j.Says "description" (.text (tag.description.getD []))
  rendered : j.Says "rendered" (.text tag.body)
  fields : ∃ own, Tag.FieldsTold j tag own ∧
    j.keys = "recognized".toList :: "name".toList :: own ++ "rendered".toList :: more

namespace Call

def reading (valid : Text → Bool) (settings : Settings) : Call → Reading Tag
  | author body => (Author.read valid body).map .author
  | query (.method body) ns => (Method.recognise {} (settings.scope ns) body).map .method
  | query (.param body) ns => (Parameter.recognise {} (settings.scope ns) body).map .param
  | query (.line text) ns =>
    match (Registry.builtin valid).create (settings.scope ns) text with
    | .ok tag => .found tag
    | .error why => .refused why

def isLine : Call → Bool
  | query (.line _) _ => true
  | _ => false

/-- What is told of a call, by what has been read. -/
inductive Told (valid : Text → Bool) (settings : Settings) (c : Call) (j : Json) : Prop
  | refused {why : Fault} : c.reading valid settings = .refused why → j.keys = ["error".toList] →
      j.Says "error" (.text why.message) → Told valid settings c j
  | missed {why : Miss} : c.isLine = false → c.reading valid settings = .missed why →
      j.keys = ["recognized".toList] → j.Says "recognized" (.bool false) → Told valid settings c j
  | found {tag : Tag} : c.isLine = false → c.reading valid settings = .found tag →
      tag.Told [] j → Told valid settings c j
  | line {tag : Tag} : c.isLine = true → c.reading valid settings = .found tag →
      tag.Told ["tag_line".toList] j → j.Says "tag_line" (.text tag.line) → Told valid settings c j

end Call

theorem Parameter.told_members (p : Parameter) : p.Told (.object p.members) :=
  ⟨rfl, rfl, rfl, rfl, rfl⟩

def lineMembers (line : Option Text) : Members :=
  (line.map fun l => ("tag_line".toList, Json.text l)).toList

theorem Parameter.told_tag (p : Parameter) (line : Option Text) :
    p.Told (.object ((Tag.param p).members ++ lineMembers line)) := by
  cases line <;> exact ⟨rfl, rfl, rfl, rfl, rfl⟩

theorem Method.told_tag (m : Method) (line : Option Text) :
    m.Told (.object ((Tag.method m).members ++ lineMembers line)) := by
  have hparameters : List.Forall₂ (fun p i => p.Told i ∧ i.keys = Parameter.keys) m.parameters
      (m.parameters.map fun p => .object p.members) := by
    rw [List.forall₂_map_right_iff, List.forall₂_same]
    exact fun p _ => ⟨p.told_members, rfl⟩
  have harguments : List.Forall₂ Parameter.Listed m.parameters
      (m.arguments.map fun a => .object (argumentMembers a)) := by
    rw [Method.arguments, List.map_map, List.forall₂_map_right_iff, List.forall₂_same]
    exact fun p _ => ⟨rfl, rfl, rfl⟩
  cases line <;> exact ⟨rfl, rfl, rfl, ⟨_, rfl, hparameters⟩, ⟨_, rfl, harguments⟩⟩

theorem Tag.told_members (tag : Tag) (line : Option Text) :
    tag.Told ((lineMembers line).map Prod.fst) (.object (tag.members ++ lineMembers line)) := by
  cases tag with
  | method m =>
    have hfields := FieldsTold.method (m.told_tag line)
    cases line <;> exact ⟨rfl, rfl, rfl, rfl, _, hfields, rfl⟩
  | param p =>
    have hfields := FieldsTold.param (p.told_tag line)
    cases line <;> exact ⟨rfl, rfl, rfl, rfl, _, hfields, rfl⟩
  | author a => cases line <;> exact ⟨rfl, rfl, rfl, rfl, _, .author rfl rfl, rfl⟩
  | generic name description => cases line <;> exact ⟨rfl, rfl, rfl, rfl, _, .generic, rfl⟩

theorem Tag.isPlain_members (tag : Tag) {more : Members} (h : Json.havePlain more = true) :
    (Json.object (tag.members ++ more)).isPlain = true := by
  cases tag with
  | method m =>
    change (Json.arePlain _ && (Json.arePlain _ && Json.havePlain more)) = true
    rw [Json.arePlain_map fun _ _ => rfl, Json.arePlain_map fun _ _ => rfl, h]
    rfl
  | param p => exact h
  | author a => exact h
  | generic name description => exact h

namespace Reading

variable {r : Reading Tag} {tag : Tag} {why : Miss} {fault : Fault}

theorem isPlain_payload (r : Reading Tag) : r.payload.isPlain = true := by
  cases r with
  | found tag =>
    rw [payload, ← List.append_nil tag.members]
    exact tag.isPlain_members rfl
  | missed | refused => rfl

end Reading

namespace Call

variable {valid : Text → Bool} {settings : Settings}

theorem answer_eq (c : Call) (h : c.isLine = false) :
    c.answer valid settings = (c.reading valid settings).payload := by
  cases c with
  | author => rfl
  | query q ns =>
    cases q with
    | method | param => rfl
    | line => cases h

theorem exists_line (c : Call) (h : c.isLine = true) : ∃ text ns, c = .query (.line text) ns := by
  cases c with
  | author => cases h
  | query q ns =>
    cases q with
    | method | param => cases h
    | line text => exact ⟨text, ns, rfl⟩

theorem isPlain_answer (valid : Text → Bool) (settings : Settings) (c : Call) :
    (c.answer valid settings).isPlain = true := by
  cases hline : c.isLine with
  | false =>
    rw [answer_eq c hline]
    exact Reading.isPlain_payload _
  | true =>
    obtain ⟨text, ns, rfl⟩ := exists_line c hline
    simp only [answer, Query.answer]
    cases (Registry.builtin valid).create (settings.scope ns) text with
    | ok tag => exact tag.isPlain_members rfl
    | error why => rfl

theorem told_answer (valid : Text → Bool) (settings : Settings) (c : Call) :
    c.Told valid settings (c.answer valid settings) := by
  cases hline : c.isLine with
  | false =>
    rw [answer_eq c hline]
    cases hread : c.reading valid settings with
    | found tag =>
      rw [Reading.payload, ← List.append_nil tag.members]
      exact .found hline hread (tag.told_members none)
    | missed => exact .missed hline hread rfl rfl
    | refused => exact .refused hread rfl rfl
  | true =>
    obtain ⟨text, ns, rfl⟩ := exists_line c hline
    simp only [answer, Query.answer]
    cases hcreate : (Registry.builtin valid).create (settings.scope ns) text with
    | ok tag =>
      refine .line hline ?_ (tag.told_members (some tag.line)) ?_
      · simp only [reading, hcreate]
      · cases tag <;> rfl
    | error why =>
      refine .refused ?_ rfl rfl
      simp only [reading, hcreate]

theorem read_answer (c : Call) (valid : Text → Bool) (settings : Settings) :
    (∀ x ∈ (c.answer valid settings).write, Json.IsPrintable x) ∧
      Json.read? (c.answer valid settings).write = some (c.answer valid settings) ∧
      c.Told valid settings (c.answer valid settings) :=
  have hplain := c.isPlain_answer valid settings
  ⟨Json.printable_write _ hplain, Json.read?_write hplain, c.told_answer valid settings⟩

end Call

namespace Service.State

/-- A call fails for no other reason than that the settings cannot be loaded. Else it is answered
    with a text of printable ASCII, out of which everything can be read that the call has read. -/
theorem step_text {E : Type} (support : Support E) (st : State) {r : Request} {c : Call}
    (h : r.call? support = some c) :
    (r.Depends support ∧ ∃ why, st.current support = .error why ∧
      (st.step support r).response = .error (r.failure why)) ∨
    ∃ settings t j, (r.Depends support → st.current support = .ok settings) ∧
      (st.step support r).response = .ok (.text t) ∧
      (∀ x ∈ t, Json.IsPrintable x) ∧ Json.read? t = some j ∧ c.Told support.valid settings j := by
  by_cases hr : r.Depends support
  · cases hcurrent : st.current support with
    | error why => exact .inl ⟨hr, why, rfl, congrArg Outcome.response (step_of_error hr hcurrent)⟩
    | ok settings =>
      refine .inr ⟨settings, _, _, fun _ => rfl, ?_, c.read_answer support.valid settings⟩
      rw [step_of_current hr hcurrent, Request.reply_of_call h]
  · cases c with
    | query q ns => exact absurd (.query h) hr
    | author body =>
      refine .inr ⟨{}, _, _, fun hd => absurd hd hr, ?_,
        (Call.author body).read_answer support.valid {}⟩
      rw [step_of_author h]
      rfl

theorem step_text_break :
    let support : Support Unit := ⟨fun _ _ => .error (), fun _ => true, Tool.parameters?⟩
    let st : State := { settings := some { ns := "App".toList } }
    let body := "User $u \"a\\\n  😀\x7f".toList
    let r : Request := .call (.query (.param (some body)) none)
    let p : Parameter := ⟨"u".toList, .object "\\App\\User".toList, false, false,
      some "\"a\\\n😀\x7f".toList⟩
    r.call? support = some (.query (.param (some body)) none) ∧
      ∃ t j, (st.step support r).response = .ok (.text t) ∧ (∀ x ∈ t, Json.IsPrintable x) ∧
        Json.read? t = some j ∧ (Tag.param p).Told [] j := by
  intro support st body r p
  have hcall : r.call? support = some (.query (.param (some body)) none) := rfl
  have hread : (Parameter.recognise {} ⟨"App".toList, []⟩ (some body)).map .param =
      .found (Tag.param p) := by decide +kernel
  refine ⟨hcall, ?_⟩
  rcases step_text support st hcall with ⟨-, why, hwhy, -⟩ | h
  · cases hwhy
  · obtain ⟨settings, t, j, hcurrent, hresponse, hprintable, hj, htold⟩ := h
    obtain rfl := Except.ok.inj (hcurrent (.query hcall))
    refine ⟨t, j, hresponse, hprintable, hj, ?_⟩
    have hreading : Call.reading support.valid { ns := "App".toList }
        (.query (.param (some body)) none) = .found (Tag.param p) := hread
    cases htold with
    | refused hr => cases hreading.symm.trans hr
    | missed _ hr => cases hreading.symm.trans hr
    | found _ hr htold =>
      cases hreading.symm.trans hr
      exact htold
    | line hline => cases hline

end Service.State

end DocTag
