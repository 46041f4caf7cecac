import DocTag.Proofs.Datum

namespace DocTag

def Yields (r : α → Prop) (m : Except ε α) : Prop := ∀ a, m = .ok a → r a

section Yields

variable {ε α β : Type} {r : α → Prop} {q : β → Prop}

theorem Yields.ok {a : α} (h : r a) : Yields r (.ok a : Except ε α) := by
  rintro _ ⟨⟩
  exact h

theorem Yields.error (why : ε) : Yields r (.error why : Except ε α) := by
  rintro _ ⟨⟩

theorem Yields.bind {m : Except ε α} {f : α → Except ε β} (hm : Yields r m)
    (hf : ∀ a, r a → Yields q (f a)) : Yields q (m >>= f) := by
  cases m with
  | error why => exact .error why
  | ok a => exact hf a (hm a rfl)

theorem Yields.map {m : Except ε α} {f : α → β} (hm : Yields r m) (hf : ∀ a, r a → q (f a)) :
    Yields q (m.map f) := by
  cases m with
  | error why => exact .error why
  | ok a => exact .ok (hf a (hm a rfl))

theorem Yields.any (m : Except ε α) : Yields (fun _ => True) m := fun _ _ => trivial

theorem Yields.mapM {f : α → Except ε β} {as : List α} (h : ∀ a ∈ as, Yields q (f a)) :
    Yields (fun bs => ∀ b ∈ bs, q b) (as.mapM f) := by
  induction as with
  | nil => exact .ok (by simp)
  | cons a as ih =>
    rw [List.forall_mem_cons] at h
    rw [List.mapM_cons]
    exact h.1.bind fun b hb => (ih h.2).bind fun bs hbs => .ok (List.forall_mem_cons.2 ⟨hb, hbs⟩)

end Yields

namespace Yaml

theorem yields_scalarMoment (t : Text) : Yields Datum.Proper (scalarMoment t) := by
  unfold scalarMoment
  dsimp only
  split
  · exact .error _
  · split
    · exact .ok (.moment _)
    · exact .error _

theorem Number.yields_real (mark : Nat) (t : Text) : Yields Datum.Proper (Number.real mark t) := by
  unfold Number.real
  split
  · exact .error _
  · dsimp only
    have hsigned (negative : Bool) (d : Double) : Datum.Proper
        (if d = .undefined then .undefined mark else .real (if negative then d.neg else d)) := by
      split
      · exact .undefined mark
      · exact .real _
    split
    · exact .ok (.real _)
    · split
      · exact .ok (.real _)
      · split
        · exact (Yields.any _).bind fun _ _ => (Yields.any _).bind fun d _ => .ok (hsigned _ d)
        · exact (Yields.any _).map fun d _ => hsigned _ d

theorem yields_scalarValue (mark : Nat) (kind : Kind) (t : Loose) :
    Yields Datum.Proper (scalarValue mark kind t) := by
  unfold scalarValue
  split
  · exact .ok .null
  · exact .ok (Datum.proper_ofLoose t)
  · exact (Yields.any _).map fun b _ => .bool b
  · exact (Yields.any _).map fun n _ => .int n
  · exact Number.yields_real mark _
  · exact yields_scalarMoment _
  · exact (Yields.any _).map fun bs _ => .bytes bs
  · exact .error _

inductive Part.Proper : Part → Prop
  | whole {d} (h : d.Proper) : Proper (.whole d)
  | list (items) : Proper (.list items)
  | entries (pairs) : Proper (.entries pairs)
  | set {keys} (h : ∀ d ∈ keys, d.Proper) : Proper (.set keys)
  | mapping {pairs} (distinct : Datum.Distinct pairs) (keys : ∀ e ∈ pairs, e.1.Proper) :
      Proper (.mapping pairs)

theorem Part.Proper.datum {p : Part} (h : p.Proper) {known : Nat → Datum}
    (hknown : ∀ node, (known node).Proper) : (p.datum known).Proper := by
  cases h with
  | whole h => exact h
  | list items =>
    refine .list fun d hd => ?_
    obtain ⟨node, -, rfl⟩ := List.mem_map.1 hd
    exact hknown node
  | entries pairs =>
    refine .list fun d hd => ?_
    obtain ⟨e, -, rfl⟩ := List.mem_map.1 hd
    exact .pair (hknown e.1) (hknown e.2)
  | set h => exact .set h
  | @mapping pairs distinct keys =>
    refine .mapping (by simpa [Datum.Distinct, Function.comp_def] using distinct) ?_ ?_
    all_goals
      intro e he
      obtain ⟨e', he', rfl⟩ := List.mem_map.1 he
    · exact keys e' he'
    · exact hknown e'.2

theorem proper_getD {ds : Array Datum} (h : ∀ d ∈ ds, d.Proper) (i : Nat) :
    (ds.getD i .null).Proper := by
  rw [Array.getD_eq_getD_getElem?]
  cases hi : ds[i]? with
  | none => exact .null
  | some d => exact h d (Array.mem_of_getElem? hi)

def Builder.Proper (b : Builder) : Prop := ∀ part, some part ∈ b.parts → part.Proper

theorem Builder.Proper.data {b : Builder} (h : b.Proper) (depth : Nat) :
    ∀ d ∈ b.data depth, d.Proper := by
  have hpart : ∀ p ∈ b.parts, (p.getD (.list [])).Proper := by
    intro p hp
    cases p with
    | none => exact .list []
    | some part => exact h part hp
  induction depth with
  | zero =>
    intro d hd
    obtain ⟨p, hp, rfl⟩ := Array.mem_map.1 hd
    exact (hpart p hp).datum fun _ => .null
  | succ depth ih =>
    intro d hd
    obtain ⟨p, hp, rfl⟩ := Array.mem_map.1 hd
    exact (hpart p hp).datum (proper_getD ih)

namespace Build

def Keeps (r : α → Prop) (m : Build α) : Prop :=
  ∀ ⦃b a b'⦄, b.Proper → m.run b = .ok (a, b') → b'.Proper ∧ r a

section Keeps

variable {α β : Type} {r : α → Prop} {q : β → Prop}

theorem Keeps.pure {a : α} (h : r a) : Keeps r (Pure.pure a : Build α) := by
  intro b a' b' hb hrun
  cases hrun
  exact ⟨hb, h⟩

theorem Keeps.bind {m : Build α} {f : α → Build β} (hm : Keeps r m)
    (hf : ∀ a, r a → Keeps q (f a)) : Keeps q (m >>= f) := by
  intro b c b' hb hrun
  rw [StateT.run_bind] at hrun
  cases h : m.run b with
  | error why => rw [h] at hrun; cases hrun
  | ok out =>
    rw [h] at hrun
    obtain ⟨hb', ha⟩ := hm hb h
    exact hf out.1 ha hb' hrun

theorem Keeps.throw (why : Fault) : Keeps r (MonadExcept.throw why : Build α) := by
  intro b a b' _ hrun
  cases hrun

theorem Keeps.ite_throw {c : Prop} [Decidable c] {m : Build α} (why : Fault) (h : Keeps r m) :
    Keeps r (if c then (do let _ : PUnit ← MonadExcept.throw why; m) else m) := by
  split
  · exact (Keeps.throw (r := fun _ => True) why).bind fun _ _ => h
  · exact h

theorem Keeps.lift {m : Except Fault α} (h : Yields r m) : Keeps r (liftM m : Build α) := by
  intro b a b' hb hrun
  cases m with
  | error why => cases hrun
  | ok a => cases hrun; exact ⟨hb, h a rfl⟩

theorem Keeps.get : Keeps Builder.Proper (MonadState.get : Build Builder) := by
  intro b a b' hb hrun
  cases hrun
  exact ⟨hb, hb⟩

theorem Keeps.modify {f : Builder → Builder} (h : ∀ b, b.Proper → (f b).Proper) :
    Keeps (fun _ => True) (modify f : Build Unit) := by
  intro b a b' hb hrun
  cases hrun
  exact ⟨h b hb, trivial⟩

theorem Keeps.forM {f : α → Build Unit} (h : ∀ a, Keeps (fun _ => True) (f a)) (as : List α) :
    Keeps (fun _ => True) (as.forM f) := by
  induction as with
  | nil => exact .pure trivial
  | cons a as ih => exact (h a).bind fun _ _ => ih

end Keeps

theorem keeps_setPart (node : Nat) {part : Part} (h : part.Proper) :
    Keeps (fun _ => True) (setPart node part) := by
  refine .modify fun b hb other hmem => ?_
  rcases Array.mem_or_eq_of_mem_setIfInBounds hmem with hold | hnew
  · exact hb other hold
  · cases hnew
    exact h

theorem keeps_visit (node : Nat) : Keeps (fun _ => True) (visit node) := by
  unfold visit
  refine Keeps.get.bind fun b hb => ?_
  split
  · dsimp only
    split
    -- A collection is put down as empty until its members are looked at.
    iterate 5
      exact (keeps_setPart node (.list [])).bind fun _ _ => .modify fun b hb => hb
    refine .ite_throw _ ((Keeps.lift (Yields.any _)).bind fun t _ => .ite_throw _ ?_)
    exact (Keeps.lift (yields_scalarValue node _ t)).bind fun d hd => keeps_setPart node (.whole hd)
  · exact .pure trivial

theorem keeps_visitPairs (pairs : List (Nat × Nat)) :
    Keeps (fun es => ∀ e ∈ es, e.1.Proper) (visitPairs pairs) := by
  induction pairs with
  | nil => exact .pure (by simp)
  | cons pair pairs ih =>
    unfold visitPairs
    refine (keeps_visit _).bind fun _ _ => Keeps.get.bind fun b hb => ?_
    split
    · rename_i d hpart
      have hd : d.Proper := by
        rcases Option.getD_eq_iff.1 hpart with hmem | ⟨-, hnone⟩
        · cases hb _ (Array.mem_of_getElem? hmem) with
          | whole hd => exact hd
        · cases hnone
      refine (keeps_visit _).bind fun _ _ => ih.bind fun es hes => .pure ?_
      exact List.forall_mem_cons.2 ⟨hd, hes⟩
    · exact .throw _

theorem keeps_visitEntries (items : List Nat) :
    Keeps (fun _ => True) (visitEntries items) := by
  induction items with
  | nil => exact .pure trivial
  | cons item items ih =>
    unfold visitEntries
    refine Keeps.get.bind fun b hb => ?_
    dsimp only
    split
    · exact (keeps_visit _).bind fun _ _ => (keeps_visit _).bind fun _ _ =>
        ih.bind fun _ _ => .pure trivial
    · exact .throw _

theorem keeps_pairsOf (node : Nat) :
    Keeps (fun es => Datum.Distinct es ∧ ∀ e ∈ es, e.1.Proper) (pairsOf node) := by
  unfold pairsOf
  refine Keeps.get.bind fun b hb => (Keeps.lift (Yields.any _)).bind fun g _ => ?_
  refine (Keeps.modify (f := fun b => { b with graph := g }) fun b hb => hb).bind fun _ _ => ?_
  refine (keeps_visitPairs _).bind fun es hes =>
    .pure ⟨Datum.distinct_putAll Datum.distinct_nil es, fun e he => ?_⟩
  exact (Datum.forall_putAll (q := fun _ => True) (fun e he => ⟨hes e he, trivial⟩) (by simp)
    e he).1

theorem keeps_expand (node : Nat) : Keeps (fun _ => True) (expand node) := by
  unfold expand
  refine Keeps.get.bind fun b hb => ?_
  dsimp only
  split
  · exact (Keeps.forM keeps_visit _).bind fun _ _ => keeps_setPart node (.list _)
  · exact (keeps_visitEntries _).bind fun es _ => keeps_setPart node (.entries es)
  · exact (keeps_visitEntries _).bind fun es _ => keeps_setPart node (.entries es)
  · exact (keeps_pairsOf node).bind fun es h => keeps_setPart node (.mapping h.1 h.2)
  · refine (keeps_pairsOf node).bind fun es h => keeps_setPart node (.set fun d hd => ?_)
    obtain ⟨e, he, rfl⟩ := List.mem_map.1 hd
    exact h.2 e he
  · exact .throw _

theorem keeps_expandAll (bound : Nat) : Keeps (fun _ => True) (expandAll bound) := by
  induction bound with
  | zero => exact .throw _
  | succ bound ih =>
    unfold expandAll
    refine Keeps.get.bind fun b hb => ?_
    split
    · exact .pure trivial
    · exact (Keeps.modify (f := fun b => { b with waiting := [] }) fun b hb => hb).bind fun _ _ =>
        (Keeps.forM keeps_expand _).bind fun _ _ => ih

end Build

theorem proper_start (g : Graph) :
    Builder.Proper { graph := g, parts := Array.replicate g.size none } := by
  intro part hmem
  cases (Array.mem_replicate.1 hmem).2

theorem yields_read (t : Text) : Yields Datum.Proper (read t) := by
  unfold read
  refine (Yields.any _).bind fun out _ => ?_
  split
  · exact .ok .null
  · rename_i g root
    have hkeeps := (Build.keeps_visit root).bind fun _ _ => Build.keeps_expandAll (g.size + 1)
    exact Yields.bind (fun _ => hkeeps (proper_start g)) fun out hout =>
      .ok (proper_getD (hout.1.data depth) root)

end Yaml

end DocTag
