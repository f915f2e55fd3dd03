import BuildSettings.Proofs.Graph.Reference
import BuildSettings.Proofs.Graph.Simulation

/-!
# The two modes

The mode decides nothing but whether the edges of aggregates are walked, so that a graph has the
same targets in both modes and the edges of the one are among those of the other. A walk that
leaves edges out can come to fewer targets. It can also meet the same targets in another order;
but not if no target that it comes to loses an edge.

* `edges_topLevel` — the edges that are left out.
* `resolve_topLevel_full` — what is resolved in the mode for the top level, compared with all.
-/

namespace BuildSettings.BuildGraph

/-- The graph walked in another mode. -/
abbrev inMode (graph : BuildGraph) (mode : ResolutionMode) : BuildGraph :=
  ⟨graph.nodes, { graph.options with mode }⟩

variable {graph : BuildGraph}

/-- Only aggregates have other edges in this mode, and there they have none. All other targets keep
theirs. -/
theorem edges_topLevel (v : (graph.inMode .topLevel).Position) :
    (graph.inMode .topLevel).edges v =
      if graph.isAggregate (graph.node v).target = true then []
      else (graph.inMode .full).edges v := by
  have hfull : ¬ (graph.inMode .full).IsCut v := fun hcut => nomatch hcut.1
  rw [edges_eq, edges_eq, if_neg hfull]
  have hcut : (graph.inMode .topLevel).IsCut v ↔ graph.isAggregate (graph.node v).target = true :=
    ⟨And.right, fun h => ⟨rfl, h⟩⟩
  by_cases haggregate : graph.isAggregate (graph.node v).target = true
  · rw [if_pos (hcut.2 haggregate), if_pos haggregate]
  · rw [if_neg (mt hcut.1 haggregate), if_neg haggregate]
    rfl

/-- The mode for the top level has no edge that the other mode has not. -/
theorem edges_topLevel_subset (v : graph.Position) :
    (graph.inMode .topLevel).edges v ⊆ (graph.inMode .full).edges v := by
  rw [edges_topLevel]
  split
  · exact List.nil_subset _
  · exact List.Subset.refl _

/-- So what is reached along its edges is reached along all edges, which puts every target of the
smaller order into the larger one. -/
theorem reaches_full {u v : graph.Position} (h : (graph.inMode .topLevel).Reaches u v) :
    (graph.inMode .full).Reaches u v :=
  Relation.ReflTransGen.mono (fun a _ hab => edges_topLevel_subset a hab) _ _ h

/-- An aggregate that names no target, on the way to two targets that need each other. -/
def podsGraph : BuildGraph :=
  ofProjects { path := "/w/App.xcodeproj", targets := [
    { name := "App", dependencies := [{ name := some "Pods-App" }, { target := some "Core" }] },
    { name := "Pods-App", linkedFiles := ["libz.tbd"] },
    { name := "Core", dependencies := [{ target := some "App" }] },
    { name := "Pods-Core", dependencies := [{ target := some "Core" }] }] } [] {}

/-- **Modes**: all targets of the order in the mode for the top level are in the order for all
edges, and if no aggregate among them has an edge, the two orders and the reports are the same. -/
theorem resolve_topLevel_full (graph : BuildGraph) (id : TargetId) :
    let top := graph.inMode .topLevel
    let full := graph.inMode .full
    (∀ t ∈ (top.resolve id).targets, t ∈ (full.resolve id).targets) ∧
    (∀ start, top.find? id = some start →
      (top.walkFrom start).finished ⊆ (full.walkFrom start).finished) ∧
    ((∀ start, top.find? id = some start → ∀ u ∈ (top.walkFrom start).finished,
        top.isAggregate (top.node u).target = true → full.edges u = []) →
      top.resolve id = full.resolve id) := by
  intro top full
  have hfinished : ∀ start, (top.walkFrom start).finished ⊆ (full.walkFrom start).finished := by
    intro start u hu
    exact mem_finished_walkFrom.2 (reaches_full (mem_finished_walkFrom.1 hu))
  cases hfind : top.find? id with
  | none =>
    have hsame : top.resolve id = full.resolve id := by
      have hfind' : full.find? id = none := hfind
      rw [resolve, resolve, hfind, hfind']
    exact ⟨fun t ht => hsame ▸ ht, fun _ _ => hfinished _, fun _ => hsame⟩
  | some start =>
    have hfind' : full.find? id = some start := hfind
    refine ⟨?_, fun _ _ => hfinished _, fun hloses => ?_⟩
    · rw [resolve_eq_walkFrom hfind, resolve_eq_walkFrom hfind']
      intro t ht
      obtain ⟨u, hu, rfl⟩ := List.mem_map.1 ht
      exact List.mem_map_of_mem (hfinished start hu)
    · have hedges : @TakesEdges top full (fun u => u) start := by
        intro u hu
        show full.edges u = (top.edges u).map fun u => u
        rw [List.map_id', edges_topLevel]
        by_cases haggregate : graph.isAggregate (graph.node u).target = true
        · -- the edges that are left out are none
          rw [if_pos haggregate]
          exact hloses start rfl u (mem_finished_walkFrom.2 hu) haggregate
        · rw [if_neg haggregate]
      have hmap := @resolve_map top full (fun u => u) id start (fun _ _ huv => huv)
        (fun _ => rfl) hfind hfind' hedges
      exact hmap.symm

/-- `Pods-App` loses nothing, because it has no edges to lose, and `Pods-Core`, which has some, is
out of reach. -/
theorem resolve_topLevel_full_pods :
    let top := podsGraph.inMode .topLevel
    let full := podsGraph.inMode .full
    let id : TargetId := ⟨"/w/App.xcodeproj", "App"⟩
    let start : podsGraph.Position := ⟨0, by decide⟩
    let pods : podsGraph.Position := ⟨1, by decide⟩
    top.find? id = some start ∧ top.isAggregate (top.node pods).target = true ∧
      pods ∈ (top.walkFrom start).finished ∧ top.resolve id = full.resolve id := by
  intro top full id start pods
  have hstart : top.find? id = some start := by decide
  have hpods : top.isAggregate (top.node pods).target = true := by decide
  have hneeds : pods ∈ top.edges start := by decide
  have hclosed : ∀ u : top.Position, u.val < 3 → ∀ v ∈ top.edges u, v.val < 3 := by decide
  have hloses : ∀ u : top.Position, u.val < 3 → top.isAggregate (top.node u).target = true →
      full.edges u = [] := by
    decide
  have hnear : ∀ u, top.Reaches start u → u.val < 3 := by
    intro u hu
    induction hu with
    | refl => decide
    | tail _ hedge ih => exact hclosed _ ih _ hedge
  obtain ⟨-, -, hresolve⟩ := resolve_topLevel_full podsGraph id
  refine ⟨hstart, hpods, mem_finished_walkFrom.2 (Relation.ReflTransGen.single hneeds),
    hresolve fun start' hstart' u hu => hloses u (hnear u ?_)⟩
  obtain rfl := Option.some.inj (hstart.symm.trans hstart')
  exact mem_finished_walkFrom.1 hu

end BuildSettings.BuildGraph
