import BuildSettings.Project.Basic
import BuildSettings.Text.Identifier

/-!
# Build order

The targets of several projects form a graph: an edge leads from a target to each target that it
declares as a dependency or whose product it links with. `BuildGraph.resolve` walks the edges
from one target, depth first, and emits a target once all it needs is emitted. An edge back to a
target on the way down is a cycle; cycles are reported and do not stop the walk.

The walk carries the targets on the way down as a list. That list never repeats a target, so it
cannot grow for ever, and this alone bounds the recursion (`openCount_cons_lt`).

Notes on how the functions mirror a program that does the same:
- A program fills two registries of targets once, one by the name of the target and one by key, in
  the order of the projects and of the targets in each; the first registration of a key wins. Here
  nothing is registered: `named?` and `producing?` look for the first target of the graph with the
  property each time, which is the one that was registered first (`first?_eq_some_iff`).
- The names of products and the names of targets share the second registry. `answersTo` says the
  same of one target: it is found under either of the two keys.
- The targets on the way down are a set in a program, from which a target is taken when its edges
  are done. Here they are the trail, an argument of the recursion, so that going back up drops the
  target by itself. On the way down the set and the trail have the same members, and the order of
  the trail is asked for by no branch; the theorems about cycles read the path off it.
- The targets that are done are a set and a list of identities in a program. Here they are one list
  of positions, `Walk.finished`, and `resolve` makes the identities of it at the end. The reports of
  cycles are kept as positions in the same way.
- A node carries its project and its target besides the two places that name them, so that no
  look-up by place can fail.
- A program loops over the edges of a target and recurses into each. `visitAll` takes the targets
  that are left as an argument, so that loop and recursion are one function, with one induction for
  both. How deep a machine can recurse is not part of it.
- Logs are left out.
-/

namespace BuildSettings

/-- Whether the edges of aggregates are walked. -/
inductive ResolutionMode where
  | topLevel
  | full
deriving DecidableEq, Inhabited, Repr

namespace ResolutionMode

/-- The name of a mode. -/
def name : ResolutionMode → String
  | topLevel => "top_level"
  | full => "full"

/-- The modes by name. -/
def names : List (String × ResolutionMode) :=
  [(name topLevel, topLevel), (name full, full)]

end ResolutionMode

/-- How a graph is walked. -/
structure GraphOptions where
  mode : ResolutionMode := .topLevel
  /-- What the names of aggregates start with. -/
  aggregatePrefixes : List String := ["Pods-"]
deriving DecidableEq, Inhabited, Repr

/-- What a walk reports. -/
inductive GraphDiagnostic where
  | targetNotFound (target : TargetId)
  | cycle (target : TargetId)
deriving DecidableEq, Repr

namespace GraphDiagnostic

/-- The wording of a report. -/
def message : GraphDiagnostic → String
  | targetNotFound target => "target " ++ target.toText ++ " not found"
  | cycle target => "dependency cycle at " ++ target.toText

/-- The name of the kind of report. -/
def kind : GraphDiagnostic → String
  | targetNotFound _ => "target_not_found"
  | cycle _ => "cycle"

/-- The target that a report is about. -/
def target : GraphDiagnostic → TargetId
  | targetNotFound target => target
  | cycle target => target

/-- Writes a report. -/
def toJson (d : GraphDiagnostic) : Json :=
  .object [("kind", .text d.kind), ("target", d.target.toJson)]

end GraphDiagnostic

/-- The targets to build, in order, and what was found on the way. -/
structure BuildOrder where
  targets : List TargetId
  diagnostics : List GraphDiagnostic
deriving DecidableEq, Repr

/-- Writes a build order. -/
def BuildOrder.toJson (order : BuildOrder) : Json :=
  .object [("targets", .array (order.targets.map TargetId.toJson)),
    ("diagnostics", .array (order.diagnostics.map GraphDiagnostic.toJson))]

/-- The name under which products are matched: the last part of a path without its extension, as
a word. A dot at the start begins no extension. -/
def productKey (raw : String) : String :=
  let file := match Text.cutLast? '/' raw.toList with
    | some (_, name) => name
    | none => raw.toList
  String.ofList (Text.wordChars (Path.splitExtension file).1)

/-- A target and the project that declares it. Both are known by their places: the project by its
place among the projects, the target by its place in the project. -/
structure GraphNode where
  place : Nat
  index : Nat
  project : Project
  target : Target

namespace GraphNode

/-- The identity of the target. -/
def id (node : GraphNode) : TargetId :=
  node.project.idOf node.target

/-- Whether products are matched to this target under the key: by the name of the product, if one
is given, or by the name of the target. -/
def answersTo (node : GraphNode) (key : String) : Bool :=
  node.target.productName.any (productKey · == key) || productKey node.target.name == key

end GraphNode

/-- The targets of all projects in order. -/
structure BuildGraph where
  nodes : List GraphNode
  options : GraphOptions

namespace BuildGraph

/-- The targets of projects, the first of which has the given place. -/
def nodesFrom (place : Nat) : List Project → List GraphNode
  | [] => []
  | project :: projects =>
    project.targets.mapIdx (GraphNode.mk place · project) ++ nodesFrom (place + 1) projects

/-- The graph of a project and further ones. -/
def ofProjects (primary : Project) (additional : List Project) (options : GraphOptions) :
    BuildGraph :=
  ⟨nodesFrom 0 (primary :: additional), options⟩

/-- A target by its position. -/
abbrev Position (graph : BuildGraph) := Fin graph.nodes.length

/-- The target at a position. -/
def node (graph : BuildGraph) (v : graph.Position) : GraphNode :=
  graph.nodes.get v

/-- The first target with a property. -/
def first? (graph : BuildGraph) (p : GraphNode → Bool) : Option graph.Position :=
  (List.finRange graph.nodes.length).find? fun v => p (graph.node v)

/-- The first target with this identity. -/
def find? (graph : BuildGraph) (id : TargetId) : Option graph.Position :=
  graph.first? fun n => n.project.path == id.project && n.target.name == id.name

/-- The first target of this name. -/
def named? (graph : BuildGraph) (name : String) : Option graph.Position :=
  graph.first? fun n => n.target.name == name

/-- The first target whose product is matched under the key. -/
def producing? (graph : BuildGraph) (key : String) : Option graph.Position :=
  graph.first? (·.answersTo key)

/-- The target that a declared dependency means: one of the same project comes first, then one of
that name anywhere; a bare name may also be that of a product. -/
def dependency? (graph : BuildGraph) (owner : GraphNode) (d : Dependency) :
    Option graph.Position :=
  match d.target with
  | some name =>
    (graph.first? fun n => n.place == owner.place && n.target.name == name).or
      (graph.named? name)
  | none => d.name.bind fun name => (graph.named? name).or (graph.producing? (productKey name))

/-- Whether the target is an aggregate, by its name. -/
def isAggregate (graph : BuildGraph) (target : Target) : Bool :=
  graph.options.aggregatePrefixes.any (Text.startsWith target.name)

/-- The targets that a target needs: first the declared dependencies, then the files it links
with. Those of aggregates count in full mode alone. -/
def edges (graph : BuildGraph) (v : graph.Position) : List graph.Position :=
  let n := graph.node v
  if graph.options.mode = .topLevel ∧ graph.isAggregate n.target then []
  else
    n.target.dependencies.filterMap (graph.dependency? n) ++
      n.target.linkedFiles.filterMap fun file => graph.producing? (productKey file)

/-! ### The walk -/

/-- How far a walk has come: the targets that are done, in order, and those at which a cycle was
met. -/
structure Walk (graph : BuildGraph) where
  finished : List graph.Position
  cycles : List graph.Position

/-- The number of positions that are not on the way down. -/
def openCount (graph : BuildGraph) (trail : List graph.Position) : Nat :=
  (List.finRange graph.nodes.length).countP fun v => !trail.contains v

theorem countP_lt_of_mem {α : Type} {p q : α → Bool} {l : List α} {a : α}
    (sub : ∀ x ∈ l, p x = true → q x = true) (ha : a ∈ l) (hq : q a = true) (hp : p a = false) :
    l.countP p < l.countP q := by
  induction l with
  | nil => simp at ha
  | cons x l ih =>
    have sub' : ∀ y ∈ l, p y = true → q y = true := fun y hy => sub y (List.mem_cons_of_mem _ hy)
    have le : l.countP p ≤ l.countP q := List.countP_mono_left sub'
    rcases List.mem_cons.1 ha with rfl | ha
    · simp only [List.countP_cons, hp, hq]
      simp
      omega
    · have lt := ih sub' ha
      have step : p x = true → q x = true := sub x (by simp)
      simp only [List.countP_cons]
      cases hx : p x with
      | true => simp [step hx, lt]
      | false => simp; omega

/-- Going down to a new target leaves fewer positions. -/
theorem openCount_cons_lt (graph : BuildGraph) {trail : List graph.Position} {v : graph.Position}
    (h : v ∉ trail) : graph.openCount (v :: trail) < graph.openCount trail := by
  unfold openCount
  refine countP_lt_of_mem (a := v) ?_ (List.mem_finRange v) ?_ ?_
  · intro x _ hx
    simp at hx
    simp [hx.2]
  · simpa using h
  · simp

/-- Walks from several targets, one after the other. `trail` holds the targets on the way down. -/
def visitAll (graph : BuildGraph) (trail : List graph.Position) :
    List graph.Position → Walk graph → Walk graph
  | [], walk => walk
  | v :: vs, walk =>
    if v ∈ walk.finished then visitAll graph trail vs walk
    else if _outside : v ∈ trail then visitAll graph trail vs ⟨walk.finished, walk.cycles ++ [v]⟩
    else
      let below := visitAll graph (v :: trail) (graph.edges v) walk
      visitAll graph trail vs ⟨below.finished ++ [v], below.cycles⟩
termination_by vs => (graph.openCount trail, vs.length)
decreasing_by
  · exact Prod.Lex.right _ (by simp)
  · exact Prod.Lex.right _ (by simp)
  · exact Prod.Lex.left _ _ (openCount_cons_lt graph _outside)
  · exact Prod.Lex.right _ (by simp)

/-- The walk from one target. -/
def walkFrom (graph : BuildGraph) (v : graph.Position) : Walk graph :=
  graph.visitAll [] [v] ⟨[], []⟩

/-- The targets that a target needs, in the order to build them, and the target itself at the
end. -/
def resolve (graph : BuildGraph) (id : TargetId) : BuildOrder :=
  match graph.find? id with
  | none => ⟨[], [.targetNotFound id]⟩
  | some v =>
    let walk := graph.walkFrom v
    ⟨walk.finished.map fun u => (graph.node u).id,
      walk.cycles.map fun u => .cycle (graph.node u).id⟩

end BuildGraph

end BuildSettings
