import BuildSettings.Proofs.Graph.Walk

/-!
# Build orders: completeness, order and cycles

What `BuildGraph.resolve` promises about any graph of targets, cyclic or not:

* `resolve_targets_reachable` — the order holds each target that edges lead to, once, and ends
  with the requested one.
* `resolve_dependency_before` — a target stands behind each target it needs, unless that one leads
  back to it.
* `resolve_cycles_exact` — each report names a target on a cycle, and each cycle in reach has a
  reported target.

All three read the invariant of `Proofs/Graph/Walk` off the whole walk, where the trail is empty
(`walkFrom_visited`). A position stands for a pair of places, that of a project and that of a
target in it (`exists_coordinates_iff`, `coordinates_injective`).
-/

namespace BuildSettings.BuildGraph

variable {graph : BuildGraph}

/-! ### Positions -/

/-- The place of a project, and that of a target in the project. -/
def coordinates (graph : BuildGraph) (v : graph.Position) : Nat × Nat :=
  ((graph.node v).place, (graph.node v).index)

/-- The targets of a graph are those of its projects, each with the place of its project, counted
from `place`, and its own place in the project. -/
theorem mem_nodesFrom {n : GraphNode} {place : Nat} {projects : List Project} :
    n ∈ nodesFrom place projects ↔
      ∃ i, n.place = place + i ∧ projects[i]? = some n.project ∧
        n.project.targets[n.index]? = some n.target := by
  induction projects generalizing place with
  | nil => simp [nodesFrom]
  | cons project projects ih =>
    rw [nodesFrom, List.mem_append, ih, List.mem_mapIdx]
    constructor
    · rintro (⟨j, hj, rfl⟩ | ⟨i, hplace, hproject, htarget⟩)
      · exact ⟨0, rfl, rfl, by simp [hj]⟩
      · exact ⟨i + 1, by omega, hproject, htarget⟩
    · rintro ⟨i, hplace, hproject, htarget⟩
      cases i with
      | zero =>
        obtain ⟨_, j, project', _⟩ := n
        obtain rfl : project = project' := by simpa using hproject
        obtain rfl : _ = place := hplace
        obtain ⟨hj, htarget⟩ := List.getElem?_eq_some_iff.1 htarget
        exact Or.inl ⟨j, hj, congrArg _ htarget⟩
      | succ i => exact Or.inr ⟨i, by omega, by simpa using hproject, htarget⟩

/-- No two targets have the same places, so a position can be named by its place in a project and
the place of the project. -/
theorem coordinates_nodup (place : Nat) (projects : List Project) :
    ((nodesFrom place projects).map fun n => (n.place, n.index)).Nodup := by
  induction projects generalizing place with
  | nil => simp [nodesFrom]
  | cons project projects ih =>
    rw [nodesFrom, List.map_append]
    refine List.nodup_append.2 ⟨?_, ih (place + 1), ?_⟩
    · -- the targets of one project differ by their own place
      rw [List.nodup_iff_getElem?_ne_getElem?]
      intro i j hij hj
      simp only [List.length_map, List.length_mapIdx] at hj
      simp [List.getElem?_eq_getElem hj, List.getElem?_eq_getElem (Nat.lt_trans hij hj)]
      omega
    · -- those of later projects have a later project
      intro a ha b hb hab
      obtain ⟨m, hm, rfl⟩ := List.mem_map.1 ha
      obtain ⟨n, hn, rfl⟩ := List.mem_map.1 hb
      obtain ⟨j, hj, rfl⟩ := List.mem_mapIdx.1 hm
      obtain ⟨i, hplace, -, -⟩ := mem_nodesFrom.1 hn
      have : place = n.place := congrArg Prod.fst hab
      omega

/-- So a position is told by the two places, and no target of a project stands in the graph twice.
-/
theorem coordinates_injective (primary : Project) (additional : List Project)
    (options : GraphOptions) :
    Function.Injective (ofProjects primary additional options).coordinates := by
  intro u v huv
  have hnodup := coordinates_nodup 0 (primary :: additional)
  have hlength : ((nodesFrom 0 (primary :: additional)).map fun n => (n.place, n.index)).length =
      (nodesFrom 0 (primary :: additional)).length := List.length_map _
  have hu := Nat.lt_of_lt_of_eq u.isLt hlength.symm
  have hv := Nat.lt_of_lt_of_eq v.isLt hlength.symm
  refine Fin.ext ((@List.Nodup.getElem_inj_iff _ _ hnodup u hu v hv).1 ?_)
  rw [List.getElem_map, List.getElem_map]
  exact huv

/-- Each target of each project has a position, and every position is that of a target of a project.
-/
theorem exists_coordinates_iff (primary : Project) (additional : List Project)
    (options : GraphOptions) (i j : Nat) :
    (∃ v, (ofProjects primary additional options).coordinates v = (i, j)) ↔
      ∃ project, (primary :: additional)[i]? = some project ∧ j < project.targets.length := by
  constructor
  · rintro ⟨v, hv⟩
    obtain ⟨i', hplace, hproject, htarget⟩ :=
      mem_nodesFrom.1 (List.get_mem (ofProjects primary additional options).nodes v)
    obtain ⟨rfl, rfl⟩ := Prod.mk.injEq .. ▸ hv
    refine ⟨_, ?_, (List.getElem?_eq_some_iff.1 htarget).1⟩
    rw [← hproject]
    congr 1
    simpa [node] using hplace
  · rintro ⟨project, hproject, hj⟩
    have hmem : (⟨i, j, project, project.targets[j]⟩ : GraphNode) ∈
        nodesFrom 0 (primary :: additional) :=
      mem_nodesFrom.2 ⟨i, by simp, hproject, List.getElem?_eq_getElem hj⟩
    obtain ⟨v, hv⟩ := List.get_of_mem hmem
    have hnode : (ofProjects primary additional options).node v =
        ⟨i, j, project, project.targets[j]⟩ := hv
    exact ⟨v, by simp [coordinates, hnode]⟩

/-! ### The whole walk -/

/-- A walk from one target keeps the invariant, with nobody on the way down at its end. -/
theorem walkFrom_visited (start : graph.Position) :
    Visited graph [] [start] ⟨[], []⟩ (graph.walkFrom start) := by
  refine visitAll_visited ⟨List.nodup_nil, fun v _ => List.isChain_singleton v⟩ ?_
  exact ⟨List.nodup_nil, by simp, by simp, by simp, by simp⟩

/-- The requested target is finished last, once everything that it leads to is done. -/
theorem getLast?_walkFrom (start : graph.Position) :
    (graph.walkFrom start).finished.getLast? = some start := by
  simp [walkFrom, visitAll]

/-- A walk finishes exactly the targets that edges lead to. One direction is the field `origin` of
what was visited; the other goes along the edges by the field `settled`. -/
theorem mem_finished_walkFrom {start u : graph.Position} :
    u ∈ (graph.walkFrom start).finished ↔ graph.Reaches start u := by
  have hvisited := walkFrom_visited start
  constructor
  · intro hu
    rcases hvisited.origin u hu with hu | ⟨v, hv, hreach⟩
    · cases hu
    · exact List.mem_singleton.1 hv ▸ hreach
  · intro hreach
    induction hreach with
    | refl => exact List.mem_of_getLast? (getLast?_walkFrom start)
    | tail _ hneeds ih =>
      -- the trail is empty in the end, so a report is of a finished target
      rcases hvisited.inv.settled _ ih _ hneeds with hbefore | ⟨hreport, -⟩
      · exact hbefore.mem
      · rcases hvisited.inv.known _ hreport with hon | hdone
        · cases hon
        · exact hdone

/-- What a found target resolves to, in terms of the walk from it. All that is said of the walk is
said of the build order in this way. -/
theorem resolve_eq_walkFrom {id : TargetId} {start : graph.Position}
    (h : graph.find? id = some start) :
    graph.resolve id =
      ⟨(graph.walkFrom start).finished.map fun u => (graph.node u).id,
        (graph.walkFrom start).cycles.map fun c => .cycle (graph.node c).id⟩ := by
  rw [resolve, h]

/-! ### Cycles -/

/-- A target of a cycle leads to all of its targets. -/
theorem IsCycle.reaches {vs : List graph.Position} (h : graph.IsCycle vs) {w : graph.Position}
    (hw : w ∈ vs) : ∀ u ∈ vs, graph.Reaches w u := by
  cases vs with
  | nil => cases hw
  | cons v us =>
    obtain ⟨before, behind, hsplit⟩ := List.append_of_mem hw
    have hchain : List.IsChain graph.Needs (v :: us ++ [v]) := h
    -- along the way from `w` to its end at `v`, then around from `v`
    have hend : graph.Reaches w v := by
      have hrest : List.IsChain graph.Needs (w :: (behind ++ [v])) :=
        hchain.suffix ⟨before, by simp [hsplit]⟩
      refine hrest.cons_induction (graph.Reaches w) _ ?_ Relation.ReflTransGen.refl v (by simp)
      exact fun _ _ hneeds hreach => hreach.tail hneeds
    refine fun u hu => List.IsChain.induction (graph.Reaches w) _ hchain ?_ (fun _ => hend) u
      (List.mem_append_left _ hu)
    exact fun _ _ hneeds hreach => hreach.tail hneeds

/-- Of a cycle whose targets are all finished some target is reported: otherwise each would stand
behind the next, and the first behind itself. -/
theorem IsCycle.exists_reported {trail vs : List graph.Position} {walk : Walk graph}
    (h : graph.IsCycle vs) (hinv : Walk.Inv graph trail walk)
    (hdone : ∀ v ∈ vs, v ∈ walk.finished) : ∃ c ∈ vs, c ∈ walk.cycles := by
  cases vs with
  | nil => cases h
  | cons v us =>
    by_contra hnone
    push Not at hnone
    have hmem : ∀ w ∈ v :: us ++ [v], w ∈ v :: us := by
      intro w hw
      rcases List.mem_append.1 hw with hw | hw
      · exact hw
      · rw [List.mem_singleton.1 hw]
        exact List.mem_cons_self ..
    -- each target stands behind the next one, so their places go down along the cycle
    have hsteps : List.IsChain (fun a b => walk.finished.idxOf b < walk.finished.idxOf a)
        (v :: us ++ [v]) := by
      refine List.IsChain.imp_of_mem_imp (fun a b ha hb hneeds => ?_) h
      rcases hinv.settled a (hdone a (hmem a ha)) b hneeds with hbefore | ⟨hreport, -⟩
      · exact hbefore
      · exact absurd hreport (hnone b (hmem b hb))
    have : Trans (fun a b => walk.finished.idxOf b < walk.finished.idxOf a)
        (fun a b => walk.finished.idxOf b < walk.finished.idxOf a)
        (fun a b => walk.finished.idxOf b < walk.finished.idxOf a) :=
      ⟨fun hab hbc => Nat.lt_trans hbc hab⟩
    exact Nat.lt_irrefl _ (hsteps.rel_cons (List.mem_append_right us (List.mem_singleton_self v)))

/-! ### What is resolved -/

/-- Two targets that need each other. The first also links with a product of `kitProject`. -/
def tangledProject : Project where
  path := "/w/App.xcodeproj"
  targets := [
    { name := "App", dependencies := [{ target := some "Core" }], linkedFiles := ["Kit.framework"] },
    { name := "Core", dependencies := [{ name := some "App" }] }]

/-- A target that needs itself. -/
def kitProject : Project where
  path := "/w/Kit.xcodeproj"
  targets := [{ name := "Kit", linkedFiles := ["Kit.framework"] }]

/-- The graph of both. -/
def tangledGraph : BuildGraph :=
  ofProjects tangledProject [kitProject] {}

/-- **Completeness**: the targets of a build order are those that edges lead to from the requested
one, each place in a project once, and the requested one is last. The positions are the pairs of
a place of a project and one of a target in it. An unknown target gives no order and one report. -/
theorem resolve_targets_reachable (primary : Project) (additional : List Project)
    (options : GraphOptions) (id : TargetId) :
    let graph := ofProjects primary additional options
    (∀ i j, (∃ u, graph.coordinates u = (i, j)) ↔
      ∃ project, (primary :: additional)[i]? = some project ∧ j < project.targets.length) ∧
    (∀ start, graph.find? id = some start →
      let order := (graph.walkFrom start).finished
      (graph.resolve id).targets = order.map (fun u => (graph.node u).id) ∧
      (order.map graph.coordinates).Nodup ∧
      (∀ u, u ∈ order ↔ graph.Reaches start u) ∧
      order.getLast? = some start) ∧
    (graph.find? id = none → graph.resolve id = ⟨[], [.targetNotFound id]⟩) := by
  refine ⟨exists_coordinates_iff primary additional options, ?_, ?_⟩
  · intro start hstart
    refine ⟨?_, ?_, fun u => mem_finished_walkFrom, getLast?_walkFrom start⟩
    · rw [resolve_eq_walkFrom hstart]
    · exact (walkFrom_visited start).inv.nodup.map
        (coordinates_injective primary additional options)
  · intro hnone
    rw [resolve, hnone]

/-- A cycle of two and a self-edge are in reach, and each target is still emitted once. -/
theorem resolve_targets_reachable_tangled :
    let id : TargetId := ⟨"/w/App.xcodeproj", "App"⟩
    let start : tangledGraph.Position := ⟨0, by decide⟩
    let order := (tangledGraph.walkFrom start).finished
    tangledGraph.find? id = some start ∧
    (tangledGraph.resolve id).targets = order.map (fun u => (tangledGraph.node u).id) ∧
    (order.map tangledGraph.coordinates).Nodup ∧
    (∀ u, u ∈ order ↔ tangledGraph.Reaches start u) ∧ order.getLast? = some start := by
  intro id start order
  have hstart : tangledGraph.find? id = some start := by decide
  exact ⟨hstart, (resolve_targets_reachable tangledProject [kitProject] {} id).2.1 start hstart⟩

/-- **Order**: a target stands behind each target it needs, unless that one leads back to it; so
where no cycle is in reach every dependency comes first. -/
theorem resolve_dependency_before {id : TargetId} {start : graph.Position}
    (h : graph.find? id = some start) :
    let order := (graph.walkFrom start).finished
    (graph.resolve id).targets = order.map (fun u => (graph.node u).id) ∧
    (∀ u ∈ order, ∀ v ∈ graph.edges u, Before order v u ∨ graph.Reaches v u) ∧
    ((∀ vs, graph.IsCycle vs → ∀ v ∈ vs, ¬ graph.Reaches start v) →
      ∀ u ∈ order, ∀ v ∈ graph.edges u, Before order v u) := by
  have hinv := (walkFrom_visited start).inv
  refine ⟨?_, ?_, ?_⟩
  · rw [resolve_eq_walkFrom h]
  · intro u hu v hv
    exact (hinv.settled u hu v hv).imp_right And.right
  · intro hacyclic u hu v hv
    rcases hinv.settled u hu v hv with hbefore | ⟨hreport, -⟩
    · exact hbefore
    · obtain ⟨us, -, hcycle⟩ := hinv.cyclic v hreport
      have hreach : graph.Reaches start v := (mem_finished_walkFrom.1 hu).tail hv
      exact absurd hreach (hacyclic _ hcycle v (List.mem_cons_self ..))

/-- `Core` and `App` need each other, so only one of the two edges is kept by the order. -/
theorem resolve_dependency_before_tangled :
    let id : TargetId := ⟨"/w/App.xcodeproj", "App"⟩
    let start : tangledGraph.Position := ⟨0, by decide⟩
    let order := (tangledGraph.walkFrom start).finished
    tangledGraph.find? id = some start ∧
    ∀ u ∈ order, ∀ v ∈ tangledGraph.edges u, Before order v u ∨ tangledGraph.Reaches v u := by
  intro id start order
  have hstart : tangledGraph.find? id = some start := by decide
  exact ⟨hstart, (resolve_dependency_before hstart).2.1⟩

/-- **Cycles**: each report names a target on a cycle without repetition, each cycle in reach has
a reported target, and so nothing is reported exactly where no cycle is in reach. -/
theorem resolve_cycles_exact {id : TargetId} {start : graph.Position}
    (h : graph.find? id = some start) :
    let reported := (graph.walkFrom start).cycles
    (graph.resolve id).diagnostics = reported.map (fun c => .cycle (graph.node c).id) ∧
    (∀ c ∈ reported, ∃ us, (c :: us).Nodup ∧ graph.IsCycle (c :: us)) ∧
    (∀ vs, graph.IsCycle vs → (∃ v ∈ vs, graph.Reaches start v) → ∃ c ∈ vs, c ∈ reported) ∧
    ((graph.resolve id).diagnostics = [] ↔
      ∀ vs, graph.IsCycle vs → ∀ v ∈ vs, ¬ graph.Reaches start v) := by
  have hinv := (walkFrom_visited start).inv
  have hexists : ∀ vs, graph.IsCycle vs → (∃ v ∈ vs, graph.Reaches start v) →
      ∃ c ∈ vs, c ∈ (graph.walkFrom start).cycles := by
    rintro vs hcycle ⟨v, hv, hreach⟩
    refine hcycle.exists_reported hinv fun u hu => ?_
    exact mem_finished_walkFrom.2 (hreach.trans (hcycle.reaches hv u hu))
  rw [resolve_eq_walkFrom h]
  refine ⟨rfl, hinv.cyclic, hexists, ?_⟩
  rw [List.map_eq_nil_iff]
  constructor
  · intro hnil vs hcycle v hv hreach
    obtain ⟨c, -, hreport⟩ := hexists vs hcycle ⟨v, hv, hreach⟩
    rw [hnil] at hreport
    cases hreport
  · intro hacyclic
    refine List.eq_nil_iff_forall_not_mem.2 fun c hreport => ?_
    obtain ⟨us, -, hcycle⟩ := hinv.cyclic c hreport
    rcases hinv.known c hreport with hon | hdone
    · cases hon
    · exact hacyclic _ hcycle c (List.mem_cons_self ..) (mem_finished_walkFrom.1 hdone)

/-- The target that needs itself is a cycle of its own, so it is among the reported ones, beside the
one of the longer cycle. -/
theorem resolve_cycles_exact_tangled :
    let id : TargetId := ⟨"/w/App.xcodeproj", "App"⟩
    let start : tangledGraph.Position := ⟨0, by decide⟩
    let kit : tangledGraph.Position := ⟨2, by decide⟩
    tangledGraph.find? id = some start ∧ tangledGraph.IsCycle [kit] ∧
    kit ∈ (tangledGraph.walkFrom start).cycles := by
  intro id start kit
  have hstart : tangledGraph.find? id = some start := by decide
  have hself : kit ∈ tangledGraph.edges kit := by decide
  have hcycle : tangledGraph.IsCycle [kit] := List.isChain_pair.2 hself
  have hneeds : kit ∈ tangledGraph.edges start := by decide
  obtain ⟨c, hc, hreport⟩ := (resolve_cycles_exact hstart).2.2.1 [kit] hcycle
    ⟨kit, List.mem_singleton_self kit, Relation.ReflTransGen.single hneeds⟩
  exact ⟨hstart, hcycle, List.mem_singleton.1 hc ▸ hreport⟩

end BuildSettings.BuildGraph
