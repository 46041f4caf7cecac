import DocTag.Service.Tool
import DocTag.Settings.Basic

/-!
The service: requests that follow one another on one state. The settings are loaded by the first
request that needs them, and kept until they are replaced or dropped. How they are loaded, which
addresses are valid and how a client passes the parameters of a tool is left open.
-/

namespace DocTag

namespace Service

structure State where
  world : Settings.World := {}
  settings : Option Settings := none
deriving DecidableEq, Repr

structure Support (E : Type) where
  load : Settings.World → List (Datum × Datum) → Except E Settings
  valid : Text → Bool
  -- what a tool reads and the namespace, if the arguments are such that the tool can be called
  parameters : Tool → (arguments : Json) → Option (Text × Option Text)

def Support.call? (support : Support E) (tool : Text) (arguments : Json) : Option Call := do
  let t ← Tool.find? tool
  let (subject, ns) ← support.parameters t arguments
  return t.call subject ns

inductive Request where
  | call (c : Call)
  -- A call as a client makes it, by the name of the tool and with named arguments.
  | invoke (tool : Text) (arguments : Json)
  | tools
  | settings
  | start
  | reset
  | install (given : List (Datum × Datum))
  | setVariable (name : Text) (value : Option Text)
  | write (path text : Text)
deriving Repr

inductive Failure (E : Type) where
  | load (why : E)
  | invocation
deriving DecidableEq, Repr

inductive Response where
  | text (t : Text)
  | tools (ts : List Tool)
  | settings (s : Settings)
  | listening
  | done
deriving DecidableEq, Repr

structure Outcome (E : Type) where
  response : Except (Failure E) Response
  records : List Record := []
  state : State

namespace State

def current (support : Support E) (st : State) : Except E Settings :=
  match st.settings with
  | some s => .ok s
  | none => support.load st.world []

theorem current_of_settings {st : State} {s : Settings} (h : st.settings = some s)
    (support : Support E) : st.current support = .ok s := by
  simp [current, h]

theorem current_of_none {st : State} (h : st.settings = none) (support : Support E) :
    st.current support = support.load st.world [] := by
  simp [current, h]

def withSettings (support : Support E) (st : State) (answer : Settings → Response × List Record) :
    Outcome E :=
  match st.current support with
  | .ok s => ⟨.ok (answer s).1, (answer s).2, { st with settings := some s }⟩
  | .error why => ⟨.error (.load why), [], st⟩

def call (support : Support E) (st : State) : Call → Outcome E
  | .author body =>
    ⟨.ok (.text (Call.authorAnswer support.valid body).write),
      Call.authorRecords support.valid body, st⟩
  | .query q ns =>
    st.withSettings support fun s =>
      (.text (q.answer support.valid (s.scope ns)).write, q.records support.valid (s.scope ns))

def invoke (support : Support E) (st : State) (tool : Text) (arguments : Json) : Outcome E :=
  match support.call? tool arguments with
  | none => ⟨.error .invocation, [], st⟩
  | some c =>
    let o := st.call support c
    { o with response := o.response.mapError fun _ => .invocation }

def startRecord : Record := ⟨.server, .info, "Starting docblock MCP server".toList⟩

def step (support : Support E) (st : State) : Request → Outcome E
  | .call c => st.call support c
  | .invoke tool arguments => st.invoke support tool arguments
  | .tools => ⟨.ok (.tools Tool.all), [], st⟩
  | .settings => st.withSettings support fun s => (.settings s, [])
  | .start => st.withSettings support fun _ => (.listening, [startRecord])
  | .reset => ⟨.ok .done, [], { st with settings := none }⟩
  | .install given =>
    match support.load st.world given with
    | .ok s => ⟨.ok .done, [], { st with settings := some s }⟩
    | .error why => ⟨.error (.load why), [], st⟩
  | .setVariable name value =>
    ⟨.ok .done, [], { st with world := st.world.setVariable name value }⟩
  | .write path text => ⟨.ok .done, [], { st with world := st.world.writeFile path text }⟩

def run (support : Support E) (st : State) : List Request → List (Outcome E)
  | [] => []
  | r :: rest => let o := st.step support r; o :: o.state.run support rest

end State

end Service

end DocTag
