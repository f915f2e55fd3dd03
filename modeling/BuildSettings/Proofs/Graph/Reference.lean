import BuildSettings.Graph

/-!
# References

A target names the targets that it needs in three ways: by the name of a target, by a name alone,
and by a file that it links with. Each way has its own look-up, and the edges of a target are what
its references lead to (`edges_eq`), unless they are left out.
-/

namespace BuildSettings

/-- What a target says about another target that it needs. -/
inductive TargetReference where
  /-- The name of a target, one of the same project first. -/
  | target (name : String)
  /-- A name alone, that of a target or else that of a product. -/
  | bare (name : String)
  /-- A file that is linked with. -/
  | file (file : String)
deriving DecidableEq, Repr

/-- What a declared dependency refers to. One without any name refers to nothing. -/
def Dependency.reference? (d : Dependency) : Option TargetReference :=
  match d.target with
  | some name => some (.target name)
  | none => d.name.map .bare

/-- The references of a target in the order of its edges. -/
def Target.references (target : Target) : List TargetReference :=
  target.dependencies.filterMap Dependency.reference? ++ target.linkedFiles.map .file

namespace BuildGraph

section

variable (graph : BuildGraph)

/-- The target that a reference leads to. -/
def referent? (owner : GraphNode) : TargetReference → Option graph.Position
  | .target name =>
    (graph.first? fun n => n.place == owner.place && n.target.name == name).or
      (graph.named? name)
  | .bare name => (graph.named? name).or (graph.producing? (productKey name))
  | .file file => graph.producing? (productKey file)

/-- The edges of the target are left out. -/
def IsCut (v : graph.Position) : Prop :=
  graph.options.mode = .topLevel ∧ graph.isAggregate (graph.node v).target = true

instance (v : graph.Position) : Decidable (graph.IsCut v) :=
  inferInstanceAs (Decidable (_ ∧ _))

/-- A declared dependency leads where the reference that it stands for leads; a dependency that
names nothing is no reference. -/
theorem dependency?_eq (owner : GraphNode) (d : Dependency) :
    graph.dependency? owner d = d.reference?.bind (graph.referent? owner) := by
  unfold dependency? Dependency.reference?
  cases d.target with
  | some name => rfl
  | none => cases d.name <;> rfl

/-- All edges of a target in one list: its references, declared ones first and linked files after
them, as far as they lead somewhere. -/
theorem edges_eq (v : graph.Position) :
    graph.edges v = if graph.IsCut v then []
      else (graph.node v).target.references.filterMap (graph.referent? (graph.node v)) := by
  have hdependency : graph.dependency? (graph.node v) =
      fun d => d.reference?.bind (graph.referent? (graph.node v)) :=
    funext (graph.dependency?_eq (graph.node v))
  rw [edges, Target.references, List.filterMap_append, List.filterMap_filterMap,
    List.filterMap_map, hdependency]
  rfl

end

variable {graph : BuildGraph}

/-- What a reference of a target leads to is an edge, if the edges of the target are walked. -/
theorem mem_edges_of_referent? {u v : graph.Position} {r : TargetReference} (hu : ¬ graph.IsCut u)
    (hr : r ∈ (graph.node u).target.references)
    (hv : graph.referent? (graph.node u) r = some v) : v ∈ graph.edges u := by
  rw [edges_eq, if_neg hu]
  exact List.mem_filterMap.2 ⟨r, hr, hv⟩

end BuildGraph

end BuildSettings
