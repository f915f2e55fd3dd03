import BuildSettings.Graph
import Mathlib.Data.List.Chain
import Mathlib.Data.List.Nodup
import Mathlib.Logic.Relation

/-!
# What a walk leaves behind

`BuildGraph.visitAll` shares one record of finished targets and reported cycles among all the
subtrees it goes down into, so no subtree can be looked at alone. This file finds what every
part of a walk keeps:

* `Walk.Inv` — the invariant of the record, relative to the trail of targets on the way down.
  The load-bearing field is `settled`: an edge of a finished target leads to one that was finished
  earlier, or to one that was reported as a cycle and leads back.
* `Visited` — what a walk from several targets adds: the invariant, a longer order of finished
  targets, and for each start either its place in that order or a report.

Main result: `visitAll_visited`, by the recursion of `visitAll` itself. Its step lemmas are
`Walk.Inv.report` (an edge back to the trail) and `Walk.Inv.finish` (all edges of a target are
done). The trail is a chain of edges without repetition (`IsTrail`), which is where the cycle
through a reported target comes from (`IsTrail.exists_cycle`).
-/

namespace BuildSettings.BuildGraph

variable {graph : BuildGraph}

/-- The target at `u` needs the one at `v`. -/
def Needs (graph : BuildGraph) (u v : graph.Position) : Prop :=
  v ∈ graph.edges u

/-- Edges lead from `u` to `v`, none or several. -/
def Reaches (graph : BuildGraph) : graph.Position → graph.Position → Prop :=
  Relation.ReflTransGen graph.Needs

/-- A way along the edges that ends where it starts: each target needs the next one and the last
one needs the first. A target that needs itself is such a way. -/
def IsCycle (graph : BuildGraph) : List graph.Position → Prop
  | [] => False
  | v :: vs => List.IsChain graph.Needs (v :: vs ++ [v])

/-- `v` stands before `u` in an order. -/
def Before (order : List graph.Position) (v u : graph.Position) : Prop :=
  order.idxOf v < order.idxOf u

/-! ### Places in an order -/

/-- What stands before something in an order is in the order itself, for what is missing counts as
standing at the end. -/
theorem Before.mem {order : List graph.Position} {v u : graph.Position} (h : Before order v u) :
    v ∈ order :=
  List.idxOf_lt_length_iff.1 (Nat.lt_of_lt_of_le h List.idxOf_le_length)

/-- Later targets do not move the earlier ones: an order only ever grows at its end. -/
theorem idxOf_append_of_mem {order : List graph.Position} {v : graph.Position} (h : v ∈ order)
    (more : List graph.Position) : (order ++ more).idxOf v = order.idxOf v := by
  rw [List.idxOf_append, if_pos h]

/-- The order of two targets is settled once the second one is finished. This is what lets the
invariant speak of the order at any time and hold of the final one. -/
theorem Before.append {order : List graph.Position} {v u : graph.Position}
    (h : Before order v u) (hu : u ∈ order) (more : List graph.Position) :
    Before (order ++ more) v u := by
  unfold Before
  rw [idxOf_append_of_mem h.mem, idxOf_append_of_mem hu]
  exact h

/-- What is in the order stands before what is put behind it. With this, a target stands behind all
it needs as soon as it is finished. -/
theorem before_concat {order : List graph.Position} {v u : graph.Position} (hv : v ∈ order)
    (hu : u ∉ order) : Before (order ++ [u]) v u := by
  unfold Before
  rw [idxOf_append_of_mem hv, List.idxOf_append, if_neg hu]
  have := List.idxOf_lt_length_of_mem hv
  omega

/-! ### The trail -/

/-- The targets on the way down, nearest first: none twice, each needed by the next, and each of
the targets to visit needed by the nearest. -/
structure IsTrail (graph : BuildGraph) (trail vs : List graph.Position) : Prop where
  nodup : trail.Nodup
  chain : ∀ v ∈ vs, List.IsChain (fun a b => graph.Needs b a) (v :: trail)

theorem IsTrail.tail {trail : List graph.Position} {v : graph.Position}
    {vs : List graph.Position} (h : IsTrail graph trail (v :: vs)) : IsTrail graph trail vs :=
  ⟨h.nodup, fun u hu => h.chain u (List.mem_cons_of_mem _ hu)⟩

/-- Going down to a target makes a trail to all it needs. The test that it is not on the trail yet
is what keeps the trail free of repetitions. -/
theorem IsTrail.down {trail : List graph.Position} {v : graph.Position}
    {vs : List graph.Position} (h : IsTrail graph trail (v :: vs)) (hv : v ∉ trail) :
    IsTrail graph (v :: trail) (graph.edges v) := by
  refine ⟨List.nodup_cons.2 ⟨hv, h.nodup⟩, fun u hu => ?_⟩
  exact List.isChain_cons_cons.2 ⟨hu, h.chain v (List.mem_cons_self ..)⟩

/-- Each target on the trail leads to each target to visit, since the trail is a chain of edges
towards it. -/
theorem IsTrail.reaches {trail : List graph.Position} {v : graph.Position}
    {vs : List graph.Position} (h : IsTrail graph trail (v :: vs)) :
    ∀ t ∈ trail, graph.Reaches t v := by
  have hchain := h.chain v (List.mem_cons_self ..)
  clear h
  induction trail generalizing v with
  | nil => intro t ht; cases ht
  | cons a trail ih =>
    obtain ⟨hav, hrest⟩ := List.isChain_cons_cons.1 hchain
    intro t ht
    rcases List.mem_cons.1 ht with rfl | ht
    · exact Relation.ReflTransGen.single hav
    · exact (ih hrest t ht).tail hav

/-- An edge back to the trail closes a cycle: the part of the trail above the target. Each target of
the trail needs the one above it, so nothing has to be searched for. -/
theorem IsTrail.exists_cycle {trail : List graph.Position} {v : graph.Position}
    {vs : List graph.Position} (h : IsTrail graph trail (v :: vs)) (hv : v ∈ trail) :
    ∃ us, (v :: us).Nodup ∧ graph.IsCycle (v :: us) := by
  obtain ⟨above, below, rfl⟩ := List.append_of_mem hv
  have hchain := h.chain v (List.mem_cons_self ..)
  refine ⟨above.reverse, ?_, ?_⟩
  · have hnodup := h.nodup
    rw [List.nodup_append] at hnodup
    obtain ⟨habove, -, hne⟩ := hnodup
    refine List.nodup_cons.2 ⟨fun hmem => ?_, List.nodup_reverse.2 habove⟩
    exact hne v (List.mem_reverse.1 hmem) v (List.mem_cons_self ..) rfl
  · -- the trail runs against the edges, so the cycle is read off its reverse
    have hpart : List.IsChain (fun a b => graph.Needs b a) (v :: above ++ [v]) := by
      refine hchain.prefix ⟨below, ?_⟩
      simp
    have hreverse := List.isChain_reverse.2 hpart
    simpa [IsCycle] using hreverse

/-! ### The invariant -/

/-- The record of a walk while the targets of `trail` are on the way down. -/
structure Walk.Inv (graph : BuildGraph) (trail : List graph.Position) (walk : Walk graph) :
    Prop where
  nodup : walk.finished.Nodup
  apart : ∀ v ∈ trail, v ∉ walk.finished
  known : ∀ c ∈ walk.cycles, c ∈ trail ∨ c ∈ walk.finished
  cyclic : ∀ c ∈ walk.cycles, ∃ us, (c :: us).Nodup ∧ graph.IsCycle (c :: us)
  settled : ∀ u ∈ walk.finished, ∀ v, graph.Needs u v →
    Before walk.finished v u ∨ (v ∈ walk.cycles ∧ graph.Reaches v u)

/-- Reporting an edge back to the trail keeps the invariant: the reported target is on the trail,
and the part of the trail above it is the cycle that the field `cyclic` asks for. -/
theorem Walk.Inv.report {trail vs : List graph.Position} {v : graph.Position} {walk : Walk graph}
    (h : Walk.Inv graph trail walk) (htrail : IsTrail graph trail (v :: vs)) (hv : v ∈ trail) :
    Walk.Inv graph trail ⟨walk.finished, walk.cycles ++ [v]⟩ := by
  refine ⟨h.nodup, h.apart, ?_, ?_, ?_⟩
  · intro c hc
    rcases List.mem_append.1 hc with hc | hc
    · exact h.known c hc
    · exact Or.inl (List.mem_singleton.1 hc ▸ hv)
  · intro c hc
    rcases List.mem_append.1 hc with hc | hc
    · exact h.cyclic c hc
    · rw [List.mem_singleton.1 hc]
      exact htrail.exists_cycle hv
  · intro u hu w hw
    rcases h.settled u hu w hw with hbefore | ⟨hreport, hback⟩
    · exact Or.inl hbefore
    · exact Or.inr ⟨List.mem_append_left _ hreport, hback⟩

/-- Finishing a target keeps the invariant, once each of its edges leads to a finished target or to
a reported one on the trail. The target leaves the trail and enters the order at its end, behind all
that it needs. -/
theorem Walk.Inv.finish {trail : List graph.Position} {v : graph.Position} {below : Walk graph}
    (h : Walk.Inv graph (v :: trail) below) (hv : v ∉ trail)
    (hmet : ∀ u ∈ graph.edges v,
      u ∈ below.finished ∨ (u ∈ below.cycles ∧ graph.Reaches u v)) :
    Walk.Inv graph trail ⟨below.finished ++ [v], below.cycles⟩ := by
  have hfresh : v ∉ below.finished := h.apart v (List.mem_cons_self ..)
  refine ⟨?_, ?_, ?_, h.cyclic, ?_⟩
  · refine List.nodup_append.2 ⟨h.nodup, List.nodup_singleton v, ?_⟩
    intro a ha b hb hab
    rw [List.mem_singleton.1 hb] at hab
    exact hfresh (hab ▸ ha)
  · intro u hu hmem
    rcases List.mem_append.1 hmem with hmem | hmem
    · exact h.apart u (List.mem_cons_of_mem _ hu) hmem
    · exact hv (List.mem_singleton.1 hmem ▸ hu)
  · intro c hc
    -- hc' | a report on the trail may be of `v` itself, which is finished now
    rcases h.known c hc with hc' | hc'
    · rcases List.mem_cons.1 hc' with rfl | hc'
      · exact Or.inr (by simp)
      · exact Or.inl hc'
    · exact Or.inr (List.mem_append_left _ hc')
  · intro u hu w hw
    rcases List.mem_append.1 hu with hu | hu
    · rcases h.settled u hu w hw with hbefore | hback
      · exact Or.inl (hbefore.append hu _)
      · exact Or.inr hback
    · -- the edges of `v` are those that its visit has met
      obtain rfl := List.mem_singleton.1 hu
      rcases hmet w hw with hdone | hback
      · exact Or.inl (before_concat hdone hfresh)
      · exact Or.inr hback

/-! ### The run -/

/-- What a walk from the targets `vs` makes of the record `walk`. -/
structure Visited (graph : BuildGraph) (trail vs : List graph.Position)
    (walk after : Walk graph) : Prop where
  inv : Walk.Inv graph trail after
  grown : walk.finished <+: after.finished
  kept : walk.cycles ⊆ after.cycles
  met : ∀ v ∈ vs, v ∈ after.finished ∨ (v ∈ trail ∧ v ∈ after.cycles)
  origin : ∀ u ∈ after.finished, u ∈ walk.finished ∨ ∃ v ∈ vs, graph.Reaches v u

/-- A first target that is finished, or reported on the trail, is met by all that follows. The step
from `walk` to `middle` is the visit of that target, and the hypotheses are what the rest of the
walk must not lose. -/
theorem Visited.cons {trail vs : List graph.Position} {v : graph.Position}
    {walk middle after : Walk graph} (h : Visited graph trail vs middle after)
    (hgrown : walk.finished <+: middle.finished) (hkept : walk.cycles ⊆ middle.cycles)
    (hmet : v ∈ middle.finished ∨ (v ∈ trail ∧ v ∈ middle.cycles))
    (horigin : ∀ u ∈ middle.finished, u ∈ walk.finished ∨ graph.Reaches v u) :
    Visited graph trail (v :: vs) walk after := by
  refine ⟨h.inv, hgrown.trans h.grown, List.Subset.trans hkept h.kept, ?_, ?_⟩
  · intro u hu
    rcases List.mem_cons.1 hu with rfl | hu
    · rcases hmet with hdone | ⟨htrail, hreport⟩
      · exact Or.inl (h.grown.subset hdone)
      · exact Or.inr ⟨htrail, h.kept hreport⟩
    · exact h.met u hu
  · intro u hu
    rcases h.origin u hu with hu | ⟨w, hw, hreach⟩
    · rcases horigin u hu with hu | hreach
      · exact Or.inl hu
      · exact Or.inr ⟨v, List.mem_cons_self .., hreach⟩
    · exact Or.inr ⟨w, List.mem_cons_of_mem _ hw, hreach⟩

/-- The run lemma, by the recursion of the walk itself: every part of a walk keeps the invariant,
meets all its starts and finishes nothing that they do not lead to. -/
theorem visitAll_visited {trail vs : List graph.Position} {walk : Walk graph}
    (htrail : IsTrail graph trail vs) (hinv : Walk.Inv graph trail walk) :
    Visited graph trail vs walk (graph.visitAll trail vs walk) := by
  fun_induction visitAll graph trail vs walk with
  | case1 trail walk =>
    exact ⟨hinv, List.prefix_refl _, List.Subset.refl _, by simp, fun u hu => Or.inl hu⟩
  -- finished before: nothing is done
  | case2 trail v vs walk hdone ih =>
    exact (ih htrail.tail hinv).cons (List.prefix_refl _) (List.Subset.refl _) (Or.inl hdone)
      fun u hu => Or.inl hu
  -- on the trail: the target is reported
  | case3 trail v vs walk _ hon ih =>
    refine (ih htrail.tail (hinv.report htrail hon)).cons (List.prefix_refl _) ?_ ?_
      fun u hu => Or.inl hu
    · exact fun c hc => List.mem_append_left _ hc
    · exact Or.inr ⟨hon, by simp⟩
  | case4 trail v vs walk hnew hoff below ihBelow ih =>
    -- a new target: its edges are walked with the target on the trail, and then it is finished
    have hbelow : Visited graph (v :: trail) (graph.edges v) walk below := by
      refine ihBelow (htrail.down hoff) ⟨hinv.nodup, ?_, ?_, hinv.cyclic, hinv.settled⟩
      · intro u hu
        rcases List.mem_cons.1 hu with rfl | hu
        · exact hnew
        · exact hinv.apart u hu
      · intro c hc
        rcases hinv.known c hc with hc | hc
        · exact Or.inl (List.mem_cons_of_mem _ hc)
        · exact Or.inr hc
    have hmet : ∀ u ∈ graph.edges v,
        u ∈ below.finished ∨ (u ∈ below.cycles ∧ graph.Reaches u v) := by
      intro u hu
      rcases hbelow.met u hu with hdone | ⟨hon, hreport⟩
      · exact Or.inl hdone
      · refine Or.inr ⟨hreport, ?_⟩
        rcases List.mem_cons.1 hon with rfl | hon
        · exact Relation.ReflTransGen.refl
        · exact htrail.reaches u hon
    have hfinish := hbelow.inv.finish hoff hmet
    refine (ih htrail.tail hfinish).cons ?_ hbelow.kept (Or.inl (by simp)) ?_
    · exact hbelow.grown.trans (List.prefix_append _ _)
    · intro u hu
      rcases List.mem_append.1 hu with hu | hu
      · rcases hbelow.origin u hu with hu | ⟨w, hw, hreach⟩
        · exact Or.inl hu
        · exact Or.inr (Relation.ReflTransGen.head hw hreach)
      · rw [List.mem_singleton.1 hu]
        exact Or.inr Relation.ReflTransGen.refl

end BuildSettings.BuildGraph
