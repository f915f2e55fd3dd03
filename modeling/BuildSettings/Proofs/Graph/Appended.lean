import BuildSettings.Proofs.Graph.Product
import BuildSettings.Proofs.Graph.Simulation

/-!
# Further projects

Projects behind the others add targets behind the others. A reference is looked up in the order
of the targets, so what it finds among the first ones it finds again. The one exception is a name
alone: it is looked up among the names of all targets before it is looked up among the products,
so that a target of a later project can take it away from the product that it meant.

* `Firm` — a reference that keeps its meaning: it leads somewhere, and by a name alone only to a
  target of that name.
* `resolve_appended` — further projects take no firm reference elsewhere, and a build order in
  which all references are firm stays as it is.
-/

namespace BuildSettings.BuildGraph

/-! ### Firm references -/

section

variable (graph : BuildGraph)

/-- The reference leads to a target, and if it is a name alone, to one that has the name. -/
def Firm (owner : GraphNode) : TargetReference → Prop
  | .bare name => ∃ v, (graph.node v).target.name = name
  | .target name => (graph.referent? owner (.target name)).isSome
  | .file file => (graph.referent? owner (.file file)).isSome

instance (owner : GraphNode) : (r : TargetReference) → Decidable (graph.Firm owner r)
  | .bare name => inferInstanceAs (Decidable (∃ v, (graph.node v).target.name = name))
  | .target name => inferInstanceAs (Decidable ((graph.referent? owner (.target name)).isSome))
  | .file file => inferInstanceAs (Decidable ((graph.referent? owner (.file file)).isSome))

end

section

variable {graph : BuildGraph}

/-- A name that some target has leads to the first target of the name, in a graph of any projects.
-/
theorem exists_named? {name : String} (h : ∃ v, (graph.node v).target.name = name) :
    ∃ v, graph.named? name = some v := by
  obtain ⟨w, hw⟩ := h
  cases hnamed : graph.named? name with
  | some v => exact ⟨v, rfl⟩
  | none =>
    have hnot := first?_eq_none_iff.1 hnamed w
    rw [hw, beq_self_eq_true] at hnot
    cases hnot

/-- A firm reference leads somewhere: to a target of the owner's own project, or to one that has the
name that the reference falls back on. -/
theorem Firm.exists_referent? {owner : GraphNode} {r : TargetReference} (h : graph.Firm owner r) :
    ∃ v, graph.referent? owner r = some v := by
  cases r with
  | target name => exact Option.isSome_iff_exists.1 h
  | file file => exact Option.isSome_iff_exists.1 h
  | bare name =>
    obtain ⟨v, hv⟩ := exists_named? h
    exact ⟨v, by rw [referent?, hv, Option.some_or]⟩

end

/-! ### Larger graphs -/

/-- The larger graph has the targets of the smaller one and behind them further ones, which belong
to other projects. -/
structure Extends (small large : BuildGraph) : Prop where
  options : large.options = small.options
  initial : small.nodes <+: large.nodes
  apart : ∀ v : large.Position, small.nodes.length ≤ v.val →
    ∀ u : small.Position, (large.node v).place ≠ (small.node u).place

namespace Extends

variable {small large : BuildGraph}

/-- A target of the smaller graph in the larger one. -/
def lift (h : Extends small large) (v : small.Position) : large.Position :=
  Fin.castLE h.initial.length_le v

theorem lift_injective (h : Extends small large) : Function.Injective h.lift :=
  Fin.castLE_injective h.initial.length_le

/-- The larger graph has the targets of the smaller one in the same order, which is what makes the
first one with a property stay the first. -/
theorem lift_le_lift (h : Extends small large) {u v : small.Position} :
    h.lift u ≤ h.lift v ↔ u ≤ v :=
  Iff.rfl

@[simp] theorem node_lift (h : Extends small large) (v : small.Position) :
    large.node (h.lift v) = small.node v :=
  (h.initial.getElem v.isLt).symm

/-- A target of the larger graph is one of the smaller graph or stands behind all of them. -/
theorem eq_lift_or_le (h : Extends small large) (w : large.Position) :
    (∃ v, w = h.lift v) ∨ small.nodes.length ≤ w.val := by
  rcases Nat.lt_or_ge w.val small.nodes.length with hlt | hle
  · exact Or.inl ⟨⟨w.val, hlt⟩, rfl⟩
  · exact Or.inr hle

/-- The first target with a property stays the first. -/
theorem first?_eq_some (h : Extends small large) {p : GraphNode → Bool} {v : small.Position}
    (hv : small.first? p = some v) : large.first? p = some (h.lift v) := by
  obtain ⟨hp, hleast⟩ := first?_eq_some_iff.1 hv
  refine first?_eq_some_iff.2 ⟨by rw [h.node_lift]; exact hp, fun w hw => ?_⟩
  rcases h.eq_lift_or_le w with ⟨u, rfl⟩ | hle
  · rw [h.node_lift] at hw
    exact h.lift_le_lift.2 (hleast u hw)
  · exact Fin.le_def.2 (Nat.le_trans (Nat.le_of_lt v.isLt) hle)

/-- What a name leads to among the first projects it leads to among all of them, since the first
target of that name is searched for. -/
theorem named?_eq_some (h : Extends small large) {name : String} {v : small.Position}
    (hv : small.named? name = some v) : large.named? name = some (h.lift v) := by
  unfold named? at hv ⊢
  exact h.first?_eq_some hv

/-- The same for the key of a product: no later target takes a key away from an earlier one. -/
theorem producing?_eq_some (h : Extends small large) {key : String} {v : small.Position}
    (hv : small.producing? key = some v) : large.producing? key = some (h.lift v) := by
  unfold producing? at hv ⊢
  exact h.first?_eq_some hv

/-- A property that no further target has leads to the same target or to none in both graphs. -/
theorem first?_eq_map (h : Extends small large) {p : GraphNode → Bool}
    (hnew : ∀ w : large.Position, small.nodes.length ≤ w.val → p (large.node w) = false) :
    large.first? p = (small.first? p).map h.lift := by
  cases hsmall : small.first? p with
  | some v => exact h.first?_eq_some hsmall
  | none =>
    refine first?_eq_none_iff.2 fun w => ?_
    rcases h.eq_lift_or_le w with ⟨u, rfl⟩ | hle
    · rw [h.node_lift]
      exact first?_eq_none_iff.1 hsmall u
    · exact hnew w hle

/-- No further target is one of the same project, because a project is known by its place, so
references within a project are never touched. -/
theorem first?_local (h : Extends small large) (u : small.Position) (name : String) :
    (large.first? fun n => n.place == (small.node u).place && n.target.name == name) =
      (small.first? fun n => n.place == (small.node u).place && n.target.name == name).map
        h.lift := by
  refine h.first?_eq_map fun w hw => ?_
  rw [beq_eq_false_iff_ne.2 (h.apart w hw u), Bool.false_and]

/-- A firm reference leads to the same target in both graphs: the targets of the added projects
stand behind, and the first one that answers was there before. -/
theorem referent?_eq_some (h : Extends small large) {u v : small.Position} {r : TargetReference}
    (hr : small.Firm (small.node u) r) (hv : small.referent? (small.node u) r = some v) :
    large.referent? (small.node u) r = some (h.lift v) := by
  cases r with
  | file file => exact h.producing?_eq_some hv
  | bare name =>
    -- the name is found, so that products are not looked at
    obtain ⟨w, hw⟩ := exists_named? hr
    rw [referent?, hw, Option.some_or] at hv
    rw [referent?, h.named?_eq_some hw, Option.some_or, Option.some.inj hv]
  | target name =>
    -- only the search among all targets can come to further ones, and it ends before them
    rw [referent?] at hv
    rw [referent?, h.first?_local]
    rcases Option.or_eq_some_iff.1 hv with hlocal | ⟨hnone, hnamed⟩
    · rw [hlocal, Option.map_some, Option.some_or]
    · rw [hnone, Option.map_none, Option.none_or]
      exact h.named?_eq_some hnamed

/-- Whether the edges of a target are left out depends on the options and its name alone, and the
two graphs share both. -/
theorem isCut_lift (h : Extends small large) {u : small.Position} :
    large.IsCut (h.lift u) ↔ small.IsCut u := by
  rw [IsCut, IsCut, isAggregate, isAggregate, h.node_lift, h.options]

/-- A target whose references are all firm has the same edges in both graphs. Where its edges are
left out nothing is asked of the references. -/
theorem edges_lift (h : Extends small large) {u : small.Position}
    (hfirm : ¬ small.IsCut u →
      ∀ r ∈ (small.node u).target.references, small.Firm (small.node u) r) :
    large.edges (h.lift u) = (small.edges u).map h.lift := by
  rw [edges_eq, edges_eq, h.node_lift]
  by_cases hcut : small.IsCut u
  · rw [if_pos hcut, if_pos (h.isCut_lift.2 hcut), List.map_nil]
  · rw [if_neg hcut, if_neg (mt h.isCut_lift.1 hcut), List.map_filterMap]
    refine List.filterMap_congr fun r hr => ?_
    obtain ⟨v, hv⟩ := (hfirm hcut r hr).exists_referent?
    rw [hv, Option.map_some]
    exact h.referent?_eq_some (hfirm hcut r hr) hv

end Extends

/-- The targets of further projects stand behind all others, and their projects are counted on from
where the first ones end. -/
theorem nodesFrom_append (place : Nat) (front back : List Project) :
    nodesFrom place (front ++ back) =
      nodesFrom place front ++ nodesFrom (place + front.length) back := by
  induction front generalizing place with
  | nil => rfl
  | cons project front ih =>
    rw [List.cons_append, nodesFrom, nodesFrom, ih, List.append_assoc, List.length_cons]
    congr 3
    omega

/-- Further projects extend the graph: the targets of the first projects keep their positions, and
those of the others come behind. -/
theorem extends_append (primary : Project) (front back : List Project) (options : GraphOptions) :
    Extends (ofProjects primary front options) (ofProjects primary (front ++ back) options) := by
  have hnodes : (ofProjects primary (front ++ back) options).nodes =
      (ofProjects primary front options).nodes ++ nodesFrom (front.length + 1) back := by
    show nodesFrom 0 (primary :: front ++ back) = _
    rw [nodesFrom_append, List.length_cons, Nat.zero_add]
    rfl
  refine ⟨rfl, ⟨_, hnodes.symm⟩, fun v hv u => ?_⟩
  have hlater : (ofProjects primary (front ++ back) options).node v ∈
      nodesFrom (front.length + 1) back := by
    have hget : ((ofProjects primary front options).nodes ++
        nodesFrom (front.length + 1) back)[v.val]? =
          some ((ofProjects primary (front ++ back) options).node v) := by
      rw [← hnodes]
      exact List.getElem?_eq_getElem v.isLt
    rw [List.getElem?_append_right hv] at hget
    exact List.mem_of_getElem? hget
  obtain ⟨i, hplace, -, -⟩ := mem_nodesFrom.1 hlater
  obtain ⟨j, hplace', hproject, -⟩ :=
    mem_nodesFrom.1 (List.get_mem (ofProjects primary front options).nodes u)
  -- the places of projects count on behind those of the smaller graph
  have hj : j < front.length + 1 := (List.getElem?_eq_some_iff.1 hproject).1
  have hplace'' : ((ofProjects primary front options).node u).place = 0 + j := hplace'
  omega

/-! ### What stays as it is -/

/-- A project that names targets in all ways. `Main` of the same project needs it in turn. -/
def callerProject : Project where
  path := "/w/App.xcodeproj"
  targets := [
    { name := "App"
      dependencies := [{ target := some "Main" }, { target := some "Core" }, { name := some "Kit" }]
      linkedFiles := ["Core.framework"] },
    { name := "Main", dependencies := [{ target := some "App" }] }]

/-- The project with the targets that `callerProject` names. -/
def calledProject : Project where
  path := "/w/Core.xcodeproj"
  targets := [{ name := "Core" }, { name := "Kit", dependencies := [{}] }]

/-- A project whose targets have the same names. -/
def rivalProject : Project where
  path := "/w/Rival.xcodeproj"
  targets := [{ name := "Core" }, { name := "Main" }, { name := "Kit", productName := some "Core" }]

/-- **Further projects**: a firm reference leads to the same target in the graph of the first
projects and in that of all of them, and it is an edge in both unless the edges of its owner are
left out. Where all references of the targets in reach are firm, the same is resolved. -/
theorem resolve_appended (primary : Project) (front back : List Project) (options : GraphOptions) :
    let small := ofProjects primary front options
    let large := ofProjects primary (front ++ back) options
    let lift := (extends_append primary front back options).lift
    (∀ u, large.node (lift u) = small.node u) ∧
    (∀ u, ∀ r ∈ (small.node u).target.references, small.Firm (small.node u) r →
      ∃ v, small.referent? (small.node u) r = some v ∧
        large.referent? (large.node (lift u)) r = some (lift v) ∧
        (¬ small.IsCut u → v ∈ small.edges u ∧ lift v ∈ large.edges (lift u))) ∧
    (∀ id start, small.find? id = some start →
      (∀ u, small.Reaches start u → ¬ small.IsCut u →
        ∀ r ∈ (small.node u).target.references, small.Firm (small.node u) r) →
      large.resolve id = small.resolve id) := by
  intro small large lift
  have h : Extends small large := extends_append primary front back options
  refine ⟨h.node_lift, ?_, ?_⟩
  · intro u r hr hfirm
    obtain ⟨v, hv⟩ := hfirm.exists_referent?
    have hv' : large.referent? (large.node (lift u)) r = some (lift v) := by
      rw [h.node_lift]
      exact h.referent?_eq_some hfirm hv
    refine ⟨v, hv, hv', fun hcut => ⟨mem_edges_of_referent? hcut hr hv, ?_⟩⟩
    refine mem_edges_of_referent? (mt h.isCut_lift.1 hcut) ?_ hv'
    rw [h.node_lift]
    exact hr
  · intro id start hstart hfirm
    refine resolve_map h.lift_injective (fun u => by rw [h.node_lift]) hstart
      (h.first?_eq_some hstart) fun u hu => h.edges_lift (hfirm u hu)

/-- The rivals take no reference over, although there is one for each name but that of `App`. They
stand behind the targets that had the names before. -/
theorem resolve_appended_rival :
    let small := ofProjects callerProject [calledProject] {}
    let large := ofProjects callerProject [calledProject, rivalProject] {}
    let id : TargetId := ⟨"/w/App.xcodeproj", "App"⟩
    let start : small.Position := ⟨0, by decide⟩
    small.find? id = some start ∧
      (∀ u, ∀ r ∈ (small.node u).target.references, small.Firm (small.node u) r) ∧
      large.resolve id = small.resolve id := by
  intro small large id start
  have hstart : small.find? id = some start := by decide
  have hfirm : ∀ u, ∀ r ∈ (small.node u).target.references, small.Firm (small.node u) r := by
    decide
  obtain ⟨-, -, hresolve⟩ := resolve_appended callerProject [calledProject] [rivalProject] {}
  exact ⟨hstart, hfirm, hresolve id start hstart fun u _ _ => hfirm u⟩

/-- The name of a product is not firm: the first `Core` of the rivals takes it from `Engine`. -/
example :
    let primary : Project := { targets := [
      { name := "App", dependencies := [{ name := some "Core" }] },
      { name := "Engine", productName := some "Core" }] }
    (ofProjects primary [] {}).edges ⟨0, by decide⟩ = [⟨1, by decide⟩] ∧
      (ofProjects primary [rivalProject] {}).edges ⟨0, by decide⟩ = [⟨2, by decide⟩] := by
  decide

end BuildSettings.BuildGraph
