import DocTag.Proofs.Service.Agreement
import DocTag.Service.Standard

/-!
Runs of the service. The settings are those of the first load that succeeds, and from then on every
answer is computed from them, whatever becomes of the environment and the files.
-/

namespace DocTag

def Call.records (valid : Text → Bool) (settings : Settings) : Call → List Record
  | author body => authorRecords valid body
  | query q ns => q.records valid (settings.scope ns)

namespace Service

namespace Request

def call? (support : Support E) : Request → Option Call
  | .call c => some c
  | .invoke tool arguments => support.call? tool arguments
  | _ => none

inductive Depends (support : Support E) : Request → Prop
  | query {r : Request} {q : Query} {ns : Option Text} :
      r.call? support = some (.query q ns) → Depends support r
  | settings : Depends support .settings
  | start : Depends support .start

def Keeps : Request → Prop
  | .reset | .install _ => False
  | _ => True

def applied (w : Settings.World) : Request → Settings.World
  | .setVariable name value => w.setVariable name value
  | .write path text => w.writeFile path text
  | _ => w

def reply (support : Support E) (s : Settings) (r : Request) :
    Except (Failure E) Response × List Record :=
  match r.call? support with
  | some c => (.ok (.text (c.answer support.valid s).write), c.records support.valid s)
  | none =>
    match r with
    | .invoke _ _ => (.error .invocation, [])
    | .tools => (.ok (.tools Tool.all), [])
    | .settings => (.ok (.settings s), [])
    | .start => (.ok .listening, [State.startRecord])
    | _ => (.ok .done, [])

def failure (why : E) : Request → Failure E
  | .invoke _ _ => .invocation
  | _ => .load why

end Request

def worldAfter (w : Settings.World) (past : List Request) : Settings.World :=
  past.foldl Request.applied w

/-- The settings that requests leave in force which start without any: those of the first load that
    succeeds, of all that the requests need. -/
inductive Loads (support : Support E) : Settings.World → List Request → Settings → Prop
  | now {w : Settings.World} {r : Request} {rest : List Request} {s : Settings} :
      r.Depends support → support.load w [] = .ok s → Loads support w (r :: rest) s
  | later {w : Settings.World} {r : Request} {rest : List Request} {s : Settings} :
      (r.Depends support → ∃ why, support.load w [] = .error why) →
      Loads support (r.applied w) rest s → Loads support w (r :: rest) s

/-- What comes of a request after others. -/
inductive Answered (support : Support E) (w : Settings.World) (past : List Request) (r : Request) :
    Outcome E → Prop
  | kept {s : Settings} : Loads support w past s →
      Answered support w past r ⟨(r.reply support s).1, (r.reply support s).2,
        ⟨r.applied (worldAfter w past), some s⟩⟩
  | loaded {s : Settings} : (∀ t, ¬ Loads support w past t) → r.Depends support →
      support.load (worldAfter w past) [] = .ok s →
      Answered support w past r ⟨(r.reply support s).1, (r.reply support s).2,
        ⟨worldAfter w past, some s⟩⟩
  | failed {why : E} : (∀ t, ¬ Loads support w past t) → r.Depends support →
      support.load (worldAfter w past) [] = .error why →
      Answered support w past r ⟨.error (r.failure why), [], ⟨worldAfter w past, none⟩⟩
  | independent (s : Settings) : (∀ t, ¬ Loads support w past t) → ¬ r.Depends support →
      Answered support w past r ⟨(r.reply support s).1, (r.reply support s).2,
        ⟨r.applied (worldAfter w past), none⟩⟩

namespace Request

variable {E : Type} {support : Support E} {r : Request} {s : Settings} {c : Call}

theorem reply_of_call (h : r.call? support = some c) :
    r.reply support s =
      (.ok (.text (c.answer support.valid s).write), c.records support.valid s) := by
  simp only [reply, h]

theorem applied_of_call (h : r.call? support = some c) (w : Settings.World) : r.applied w = w := by
  cases r with
  | setVariable | write => cases h
  | _ => rfl

theorem Depends.applied (h : r.Depends support) (w : Settings.World) : r.applied w = w := by
  cases h with
  | query hcall => exact applied_of_call hcall w
  | settings | start => rfl

end Request

namespace State

open Request

variable {E : Type} {support : Support E} {st : State} {r : Request} {s : Settings} {why : E}

theorem current_of_world {w : Settings.World} {loaded : Except E Settings}
    (h : support.load w [] = loaded) : State.current support ⟨w, none⟩ = loaded :=
  (current_of_none rfl support).trans h

theorem call_of_current (h : st.current support = .ok s) (q : Query) (ns : Option Text) :
    st.call support (.query q ns) = ⟨.ok (.text ((Call.query q ns).answer support.valid s).write),
      (Call.query q ns).records support.valid s, { st with settings := some s }⟩ := by
  simp only [call, withSettings, h]
  rfl

theorem call_of_error (h : st.current support = .error why) (q : Query) (ns : Option Text) :
    st.call support (.query q ns) = ⟨.error (.load why), [], st⟩ := by
  simp only [call, withSettings, h]

theorem step_of_call (support : Support E) (st : State) {c : Call} (h : r.call? support = some c) :
    st.step support r = st.call support c ∨
      st.step support r = { st.call support c with
        response := (st.call support c).response.mapError fun _ => .invocation } := by
  cases r with
  | call =>
    obtain rfl := Option.some.inj h
    exact .inl rfl
  | invoke tool arguments =>
    refine .inr ?_
    simp only [Request.call?] at h
    simp only [step, invoke, h]
  | _ => cases h

theorem step_of_author {body : Text} (h : r.call? support = some (.author body)) (st : State) :
    st.step support r = ⟨.ok (.text (Call.authorAnswer support.valid body).write),
      Call.authorRecords support.valid body, st⟩ := by
  rcases step_of_call support st h with h | h
  · exact h
  · exact h

theorem step_of_current (hr : r.Depends support) (h : st.current support = .ok s) :
    st.step support r = ⟨(r.reply support s).1, (r.reply support s).2,
      { st with settings := some s }⟩ := by
  cases hr with
  | query hcall =>
    rw [reply_of_call hcall]
    rcases step_of_call support st hcall with hstep | hstep
    · rw [hstep, call_of_current h]
    · rw [hstep, call_of_current h]
      rfl
  | settings | start =>
    simp only [step, withSettings, h]
    rfl

theorem step_of_error (hr : r.Depends support) (h : st.current support = .error why) :
    st.step support r = ⟨.error (r.failure why), [], st⟩ := by
  cases r with
  | settings | start =>
    simp only [step, withSettings, h]
    rfl
  | call c =>
    cases hr with
    | query hcall =>
      obtain rfl := Option.some.inj hcall
      exact call_of_error h _ _
  | invoke tool arguments =>
    cases hr with
    | query hcall =>
      simp only [Request.call?] at hcall
      simp only [step, invoke, hcall, call_of_error h]
      rfl
  | _ =>
    cases hr with
    | query hcall => cases hcall

theorem step_of_not_depends (hr : ¬ r.Depends support) (hkeeps : r.Keeps) (s : Settings)
    (st : State) :
    st.step support r = ⟨(r.reply support s).1, (r.reply support s).2,
      { st with world := r.applied st.world }⟩ := by
  cases hcall : r.call? support with
  | some c =>
    cases c with
    | author body =>
      rw [step_of_author hcall, reply_of_call hcall, applied_of_call hcall]
      rfl
    | query q ns => exact absurd (.query hcall) hr
  | none =>
    cases r with
    | call => cases hcall
    | invoke =>
      simp only [Request.call?] at hcall
      simp only [step, invoke, reply, Request.call?, hcall]
      rfl
    | settings => exact absurd .settings hr
    | start => exact absurd .start hr
    | reset | install => cases hkeeps
    | tools | setVariable | write => rfl

theorem step_of_settings (hkeeps : r.Keeps) (h : st.settings = some s) :
    st.step support r = ⟨(r.reply support s).1, (r.reply support s).2,
      ⟨r.applied st.world, some s⟩⟩ := by
  by_cases hr : r.Depends support
  · rw [step_of_current hr (current_of_settings h support), hr.applied]
  · rw [step_of_not_depends hr hkeeps s, h]

def after (support : Support E) (st : State) (past : List Request) : State :=
  past.foldl (fun st r => (st.step support r).state) st

theorem length_run (support : Support E) (st : State) (rs : List Request) :
    (st.run support rs).length = rs.length := by
  induction rs generalizing st with
  | nil => rfl
  | cons r rest ih => simp [run, ih]

theorem run_append (support : Support E) (st : State) (past future : List Request) :
    st.run support (past ++ future) =
      st.run support past ++ (st.after support past).run support future := by
  induction past generalizing st with
  | nil => rfl
  | cons r rest ih =>
    simp only [List.cons_append, run, ih]
    rfl

theorem getElem?_run (support : Support E) (st : State) (past : List Request) (r : Request)
    (future : List Request) :
    (st.run support (past ++ r :: future))[past.length]? =
      some ((st.after support past).step support r) := by
  rw [run_append, List.getElem?_append_right (length_run support st past).le, length_run,
    Nat.sub_self]
  rfl

theorem after_of_settings {past : List Request} (hkeeps : ∀ x ∈ past, x.Keeps)
    (h : st.settings = some s) : st.after support past = ⟨worldAfter st.world past, some s⟩ := by
  induction past generalizing st with
  | nil =>
    cases st
    cases h
    rfl
  | cons r rest ih =>
    obtain ⟨hr, hrest⟩ := List.forall_mem_cons.1 hkeeps
    change (st.step support r).state.after support rest = _
    rw [step_of_settings hr h]
    exact ih hrest rfl

theorem after_of_loads {w : Settings.World} {past : List Request} (hkeeps : ∀ x ∈ past, x.Keeps)
    (h : Loads support w past s) :
    State.after support ⟨w, none⟩ past = ⟨worldAfter w past, some s⟩ := by
  induction h with
  | @now w r rest s hr hload =>
    change (State.step support ⟨w, none⟩ r).state.after support rest = _
    rw [step_of_current hr (current_of_world hload),
      after_of_settings (List.forall_mem_cons.1 hkeeps).2 rfl]
    change (⟨worldAfter w rest, some s⟩ : State) = ⟨worldAfter (r.applied w) rest, some s⟩
    rw [hr.applied]
  | @later w r rest s hfails _ ih =>
    obtain ⟨hr, hrest⟩ := List.forall_mem_cons.1 hkeeps
    change (State.step support ⟨w, none⟩ r).state.after support rest = _
    by_cases hdepends : r.Depends support
    · obtain ⟨why, hload⟩ := hfails hdepends
      rw [step_of_error hdepends (current_of_world hload)]
      refine Eq.trans ?_ (ih hrest)
      rw [hdepends.applied]
    · rw [step_of_not_depends hdepends hr s]
      exact ih hrest

theorem after_of_not_loads {w : Settings.World} {past : List Request}
    (hkeeps : ∀ x ∈ past, x.Keeps) (h : ∀ s, ¬ Loads support w past s) :
    State.after support ⟨w, none⟩ past = ⟨worldAfter w past, none⟩ := by
  induction past generalizing w with
  | nil => rfl
  | cons r rest ih =>
    obtain ⟨hr, hrest⟩ := List.forall_mem_cons.1 hkeeps
    change (State.step support ⟨w, none⟩ r).state.after support rest = _
    by_cases hdepends : r.Depends support
    · cases hload : support.load w [] with
      | ok s => exact absurd (.now hdepends hload) (h s)
      | error why =>
        have hlater : ∀ s, ¬ Loads support (r.applied w) rest s := fun s hs =>
          h s (.later (fun _ => ⟨why, hload⟩) hs)
        rw [step_of_error hdepends (current_of_world hload)]
        refine Eq.trans ?_ (ih hrest hlater)
        rw [hdepends.applied]
    · have hlater : ∀ s, ¬ Loads support (r.applied w) rest s := fun s hs =>
        h s (.later (fun hd => absurd hd hdepends) hs)
      rw [step_of_not_depends hdepends hr {}]
      exact ih hrest hlater

theorem answered_step (support : Support E) (w : Settings.World) {past : List Request} {r : Request}
    (hpast : ∀ x ∈ past, x.Keeps) (hr : r.Keeps) :
    Answered support w past r ((State.after support ⟨w, none⟩ past).step support r) := by
  by_cases hloads : ∃ s, Loads support w past s
  · obtain ⟨s, hs⟩ := hloads
    rw [after_of_loads hpast hs, step_of_settings hr rfl]
    exact .kept hs
  · have hnone := not_exists.1 hloads
    rw [after_of_not_loads hpast hnone]
    by_cases hdepends : r.Depends support
    · cases hload : support.load (worldAfter w past) [] with
      | ok s =>
        rw [step_of_current hdepends (current_of_world hload)]
        exact .loaded hnone hdepends hload
      | error why =>
        rw [step_of_error hdepends (current_of_world hload)]
        exact .failed hnone hdepends hload
    · rw [step_of_not_depends hdepends hr {}]
      exact .independent {} hnone hdepends

def replies (support : Support E) (st : State) (rs : List Request) :
    List (Except (Failure E) Response × List Record) :=
  (st.run support rs).map fun o => (o.response, o.records)

theorem replies_append (support : Support E) (st : State) (past future : List Request) :
    st.replies support (past ++ future) =
      st.replies support past ++ (st.after support past).replies support future := by
  rw [replies, run_append, List.map_append]
  rfl

theorem replies_of_settings {rs : List Request} (hkeeps : ∀ x ∈ rs, x.Keeps)
    (h : st.settings = some s) :
    st.replies support rs = rs.map (Request.reply support s) := by
  induction rs generalizing st with
  | nil => rfl
  | cons r rest ih =>
    obtain ⟨hr, hrest⟩ := List.forall_mem_cons.1 hkeeps
    change (_, _) :: (st.step support r).state.replies support rest = _
    rw [step_of_settings hr h, ih hrest rfl, List.map_cons]

/-- Each request of a run that starts without settings is answered as the first successful load
    before it, or at it, makes it be; a call for an author is answered alike in every state; and
    after the load any two requests can change places, which moves their answers along. -/
theorem run_loads_once (support : Support E) (w : Settings.World) :
    (∀ past r future, (∀ x ∈ past ++ [r], Request.Keeps x) →
      ∃ o, (State.run support ⟨w, none⟩ (past ++ r :: future))[past.length]? = some o ∧
        Answered support w past r o) ∧
    (∀ st r body, Request.call? support r = some (.author body) →
      State.step support st r = ⟨.ok (.text (Call.authorAnswer support.valid body).write),
        Call.authorRecords support.valid body, st⟩) ∧
    ∀ past s r between r' future, Loads support w past s →
      (∀ x ∈ past ++ r :: between ++ r' :: future, Request.Keeps x) →
      ∃ A B C a a', A.length = past.length ∧ B.length = between.length ∧
        State.replies support ⟨w, none⟩ (past ++ r :: between ++ r' :: future) =
          A ++ a :: B ++ a' :: C ∧
        State.replies support ⟨w, none⟩ (past ++ r' :: between ++ r :: future) =
          A ++ a' :: B ++ a :: C := by
  refine ⟨?_, fun st r body h => step_of_author h st, ?_⟩
  · intro past r future hkeeps
    obtain ⟨hpast, hr⟩ := List.forall_mem_append.1 hkeeps
    exact ⟨_, getElem?_run support _ past r future,
      answered_step support w hpast (hr r (by simp))⟩
  · intro past s r between r' future hloads hkeeps
    have hpast : ∀ x ∈ past, x.Keeps := fun x hx => hkeeps x (by simp [hx])
    have hreplies : ∀ rs : List Request, (∀ x ∈ rs, x.Keeps) →
        State.replies support ⟨w, none⟩ (past ++ rs) =
          State.replies support ⟨w, none⟩ past ++ rs.map (Request.reply support s) := by
      intro rs hrs
      rw [replies_append, after_of_loads hpast hloads, replies_of_settings hrs rfl]
    refine ⟨State.replies support ⟨w, none⟩ past, between.map (Request.reply support s),
      future.map (Request.reply support s), r.reply support s,
      r'.reply support s, ?_, List.length_map _, ?_, ?_⟩
    · rw [replies, List.length_map, length_run]
    all_goals
      rw [List.append_assoc, List.cons_append, hreplies]
      · simp
      · intro x hx
        refine hkeeps x ?_
        simp only [List.mem_append, List.mem_cons] at hx ⊢
        tauto

theorem run_loads_once_variable :
    let name := "NS".toList
    let support : Support Unit :=
      ⟨fun w _ => match w.environment.lookup name with
        | some ns => .ok { ns := ns }
        | none => .error (), fun _ => true, Tool.parameters?⟩
    let past : List Request := [.start, .setVariable name (some "App".toList), .settings,
      .setVariable name (some "Shop".toList)]
    let r : Request := .call (.query (.param (some "User $user".toList)) none)
    let s : Settings := { ns := "App".toList }
    let tag : Tag := .param ⟨"user".toList, .object "\\App\\User".toList, false, false, some []⟩
    (∀ x ∈ past ++ [r], x.Keeps) ∧ Loads support {} past s ∧
      ∃ o, (State.run support ⟨{}, none⟩ (past ++ [r]))[4]? = some o ∧
        Answered support {} past r o ∧ o.state.settings = some s ∧
        o.response = .ok (.text (Json.object tag.members).write) := by
  intro name support past r s tag
  have hkeeps : ∀ x ∈ past ++ [r], x.Keeps := by
    intro x hx
    simp only [past, r, List.cons_append, List.nil_append, List.mem_cons, List.not_mem_nil,
      or_false] at hx
    rcases hx with rfl | rfl | rfl | rfl | rfl <;> trivial
  have hloads : Loads support {} past s :=
    .later (fun _ => ⟨(), rfl⟩) (.later nofun (.now .settings rfl))
  obtain ⟨o, ho, hanswered⟩ := (run_loads_once support {}).1 past r [] hkeeps
  have hpast : ∀ x ∈ past, x.Keeps := fun x hx => hkeeps x (List.mem_append_left _ hx)
  have hstep := getElem?_run support ⟨{}, none⟩ past r []
  rw [after_of_loads hpast hloads, step_of_settings (hkeeps r (by simp)) rfl] at hstep
  obtain rfl := Option.some.inj (hstep.symm.trans ho)
  have htext :
      (Call.answer support.valid s (.query (.param (some "User $user".toList)) none)).write =
        (Json.object tag.members).write := by decide +kernel
  refine ⟨hkeeps, hloads, _, ho, hanswered, rfl, ?_⟩
  exact congrArg (fun t => Except.ok (Response.text t)) htext

end State

end Service

end DocTag
