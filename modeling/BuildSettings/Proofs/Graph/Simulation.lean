import BuildSettings.Proofs.Graph.Order

/-!
# One walk through two graphs

A walk reads nothing of a graph but the edges of the targets that it comes to. So where a map
takes the targets in reach of one graph to targets of another, and takes their edges along, it
takes the whole walk along: the order, the reports, and what is resolved.

* `visitAll_map` — each part of a walk, by the recursion of `visitAll`. That two targets are the
  same or not must show in both graphs, so the map has to be injective.
* `resolve_map` — the whole walk, for a target that is found in both graphs.
-/

namespace BuildSettings.BuildGraph

variable {graph other : BuildGraph} {f : graph.Position → other.Position}

/-- The record of a walk with each target taken to the other graph. -/
def Walk.map (f : graph.Position → other.Position) (walk : Walk graph) : Walk other :=
  ⟨walk.finished.map f, walk.cycles.map f⟩

/-- The map takes the edges of all targets that `start` leads to along. -/
def TakesEdges (f : graph.Position → other.Position) (start : graph.Position) : Prop :=
  ∀ u, graph.Reaches start u → other.edges (f u) = (graph.edges u).map f

/-- A walk from targets in reach of `start` does the same in the other graph. The two walks are
compared step by step along the recursion; injectivity of `f` carries over the two tests, whether a
target is finished and whether it is on the trail. -/
theorem visitAll_map {start : graph.Position} (hf : Function.Injective f)
    (hedges : TakesEdges f start) {trail vs : List graph.Position} {walk : Walk graph}
    (hreach : ∀ v ∈ vs, graph.Reaches start v) :
    other.visitAll (trail.map f) (vs.map f) (walk.map f) =
      (graph.visitAll trail vs walk).map f := by
  fun_induction visitAll graph trail vs walk with
  | case1 trail walk => rw [List.map_nil, visitAll]
  | case2 trail v vs walk hdone ih =>
    have hdone' : f v ∈ (walk.map f).finished := List.mem_map_of_mem hdone
    rw [List.map_cons, visitAll, if_pos hdone']
    exact ih fun u hu => hreach u (List.mem_cons_of_mem _ hu)
  | case3 trail v vs walk hnew hon ih =>
    have hnew' : f v ∉ (walk.map f).finished := mt (List.mem_map_of_injective hf).1 hnew
    have hon' : f v ∈ trail.map f := List.mem_map_of_mem hon
    have hreport : (⟨(walk.map f).finished, (walk.map f).cycles ++ [f v]⟩ : Walk other) =
        Walk.map f ⟨walk.finished, walk.cycles ++ [v]⟩ := by
      simp [Walk.map]
    rw [List.map_cons, visitAll, if_neg hnew', dif_pos hon', hreport]
    exact ih fun u hu => hreach u (List.mem_cons_of_mem _ hu)
  | case4 trail v vs walk hnew hoff below ihBelow ih =>
    have hnew' : f v ∉ (walk.map f).finished := mt (List.mem_map_of_injective hf).1 hnew
    have hoff' : f v ∉ trail.map f := mt (List.mem_map_of_injective hf).1 hoff
    have hv : graph.Reaches start v := hreach v (List.mem_cons_self ..)
    -- the part below `v` goes along the edges of `v`, which the map takes along
    have hbelow : other.visitAll (f v :: trail.map f) (other.edges (f v)) (walk.map f) =
        below.map f := by
      rw [hedges v hv, ← List.map_cons]
      exact ihBelow fun u hu => hv.tail hu
    have hfinish : (⟨(below.map f).finished ++ [f v], (below.map f).cycles⟩ : Walk other) =
        Walk.map f ⟨below.finished ++ [v], below.cycles⟩ := by
      simp [Walk.map]
    rw [List.map_cons, visitAll, if_neg hnew', dif_neg hoff', hbelow]
    show other.visitAll _ _ ⟨(below.map f).finished ++ [f v], (below.map f).cycles⟩ = _
    rw [hfinish]
    exact ih fun u hu => hreach u (List.mem_cons_of_mem _ hu)

/-- The case of one start and an empty record. -/
theorem walkFrom_map {start : graph.Position} (hf : Function.Injective f)
    (hedges : TakesEdges f start) :
    other.walkFrom (f start) = (graph.walkFrom start).map f := by
  have hreach : ∀ v ∈ [start], graph.Reaches start v := by
    intro v hv
    rw [List.mem_singleton.1 hv]
    exact Relation.ReflTransGen.refl
  show other.visitAll (List.map f []) (List.map f [start]) (Walk.map f ⟨[], []⟩) = _
  exact visitAll_map hf hedges hreach

/-- A target that both graphs find resolves to the same in both, for an order and its reports hold
identities and no positions, and `f` keeps these. -/
theorem resolve_map {id : TargetId} {start : graph.Position} (hf : Function.Injective f)
    (hids : ∀ u, (other.node (f u)).id = (graph.node u).id) (hstart : graph.find? id = some start)
    (hstart' : other.find? id = some (f start)) (hedges : TakesEdges f start) :
    other.resolve id = graph.resolve id := by
  rw [resolve_eq_walkFrom hstart, resolve_eq_walkFrom hstart', walkFrom_map hf hedges]
  simp only [Walk.map, List.map_map, Function.comp_def, hids]

end BuildSettings.BuildGraph
