import BuildSettings.Proofs.Graph.Reference
import Mathlib.Data.List.FinRange

/-!
# Links to products

A target that links with a file needs the target that builds it. The file gives a key, and the
edge goes to the first target that answers to the key (`producing?`). Two things stand between
that target and the one that builds the product.

Targets answer to their own names as well as to the names of their products. So a target that
merely has the name (`GraphNode.IsNamesake`) gets the edge if it comes first:

* `linked_edge_builds_iff` — the edge goes to a target that builds the product exactly if no
  namesake comes before all of these.

A key is made of a name without its extension, be it the name of a file or that of a product. So
a product whose name has a dot in it loses a part of the name that its file keeps:

* `linked_edge_of_framework` — the only target with a product gets the edges of the files of that
  product exactly if the name has no dot after its first character.
-/

namespace BuildSettings

/-! ### Extensions -/

namespace Path

/-- The last dot of a name begins its extension, if something stands in front of the dot and no dot
behind it. -/
theorem splitExtension_append {name ext : List Char} (hname : name ≠ []) (hext : '.' ∉ ext) :
    splitExtension (name ++ '.' :: ext) = (name, some ext) := by
  rw [splitExtension, Text.cutLast?_append hext]
  simp only
  rw [if_neg (mt List.isEmpty_iff.1 hname)]

/-- A name has no extension if no dot comes after its first character; a dot at the start hides a
file and begins no extension. -/
theorem splitExtension_of_notMem_tail {name : List Char} (h : '.' ∉ name.tail) :
    splitExtension name = (name, none) := by
  cases name with
  | nil => rfl
  | cons c cs =>
    have hcs : Text.cutLast? '.' cs = none := Text.cutLast?_of_notMem h
    rw [splitExtension, Text.cutLast?, hcs]
    by_cases hc : c = '.'
    · simp only [if_pos hc]
      rfl
    · simp only [if_neg hc]

/-- Otherwise something is cut off, and it is the tail from the last dot on, so that a shorter name
is left. -/
theorem length_splitExtension_lt {name : List Char} (h : '.' ∈ name.tail) :
    (splitExtension name).1.length < name.length := by
  cases name with
  | nil => cases h
  | cons c cs =>
    obtain ⟨before, after, hafter, hsplit⟩ : ∃ before after, '.' ∉ after ∧
        cs = before ++ '.' :: after := by
      obtain ⟨after, before, hreverse, hafter⟩ :=
        List.eq_append_cons_of_mem (List.mem_reverse.2 h)
      refine ⟨before.reverse, after.reverse, fun hmem => hafter (List.mem_reverse.1 hmem), ?_⟩
      rw [← List.reverse_reverse cs]
      show (List.tail (c :: cs)).reverse.reverse = _
      rw [hreverse]
      simp
    rw [hsplit, ← List.cons_append, splitExtension_append (List.cons_ne_nil c before) hafter]
    simp

end Path

/-! ### Keys of products -/

/-- A name without a slash is its own last part, and its key is made of all before its extension. -/
theorem productKey_of_notMem {name : String} (h : '/' ∉ name.toList) :
    productKey name = String.ofList (Text.wordChars (Path.splitExtension name.toList).1) := by
  rw [productKey, Text.cutLast?_of_notMem h]

theorem length_wordChars (cs : List Char) : (Text.wordChars cs).length = cs.length :=
  List.length_map _

section

variable {product ext : String}

/-- The key of a product's file is made of the whole name of the product. -/
theorem productKey_file (hproduct : product ≠ "") (hslash : '/' ∉ product.toList)
    (hext : '/' ∉ ext.toList ∧ '.' ∉ ext.toList) :
    productKey (product ++ "." ++ ext) = String.ofList (Text.wordChars product.toList) := by
  have hfile : (product ++ "." ++ ext).toList = product.toList ++ '.' :: ext.toList := by
    rw [String.append_assoc, String.toList_append, String.toList_append]
    rfl
  have hname : product.toList ≠ [] := fun hnil => hproduct (String.toList_eq_nil_iff.1 hnil)
  have hwhole : '/' ∉ (product ++ "." ++ ext).toList := by
    rw [hfile]
    simp [hslash, hext.1]
  rw [productKey_of_notMem hwhole, hfile, Path.splitExtension_append hname hext.2]

/-- The product itself has that key exactly if its name has no dot after the first character. With
such a dot, the tail of the name is cut off as if it were an extension, and the key of the file has
more characters than that of the name. -/
theorem productKey_eq_productKey_file_iff (hproduct : product ≠ "") (hslash : '/' ∉ product.toList)
    (hext : '/' ∉ ext.toList ∧ '.' ∉ ext.toList) :
    productKey product = productKey (product ++ "." ++ ext) ↔ '.' ∉ product.toList.tail := by
  rw [productKey_file hproduct hslash hext, productKey_of_notMem hslash]
  constructor
  · intro hkeys hdot
    have hlength := congrArg List.length (String.ofList_injective hkeys)
    rw [length_wordChars, length_wordChars] at hlength
    exact absurd hlength (Nat.ne_of_lt (Path.length_splitExtension_lt hdot))
  · intro hdot
    rw [Path.splitExtension_of_notMem_tail hdot]

end

/-! ### Targets and keys -/

namespace GraphNode

/-- The target's product has the key. -/
def Builds (node : GraphNode) (key : String) : Prop :=
  productKey node.target.product = key

/-- The target has the key by its own name, and builds another product. -/
def IsNamesake (node : GraphNode) (key : String) : Prop :=
  productKey node.target.name = key ∧ ¬ node.Builds key

instance (node : GraphNode) (key : String) : Decidable (node.Builds key) :=
  inferInstanceAs (Decidable (_ = _))

instance (node : GraphNode) (key : String) : Decidable (node.IsNamesake key) :=
  inferInstanceAs (Decidable (_ ∧ _))

/-- A target answers to the key of its product and to that of its own name. -/
theorem answersTo_iff_name {node : GraphNode} {key : String} :
    node.answersTo key = true ↔ node.Builds key ∨ productKey node.target.name = key := by
  unfold answersTo Builds Target.product
  cases node.target.productName <;> simp

/-- A target that answers to a key either builds the product of that key or is a mere namesake of
it, and not both. -/
theorem answersTo_iff {node : GraphNode} {key : String} :
    node.answersTo key = true ↔ node.Builds key ∨ node.IsNamesake key := by
  rw [answersTo_iff_name]
  by_cases hbuilds : node.Builds key
  · simp [hbuilds]
  · simp [hbuilds, IsNamesake]

end GraphNode

namespace BuildGraph

variable {graph : BuildGraph}

/-! ### The first target -/

/-- The first target with a property has it, and all others that have it come later. This is what a
search through a registry means that is filled from the front and never overwritten. -/
theorem first?_eq_some_iff {p : GraphNode → Bool} {v : graph.Position} :
    graph.first? p = some v ↔
      p (graph.node v) = true ∧ ∀ u, p (graph.node u) = true → v ≤ u := by
  rw [first?, List.find?_eq_some_iff_getElem]
  constructor
  · rintro ⟨hv, i, hi, hget, hbefore⟩
    rw [List.getElem_finRange] at hget
    obtain rfl : v = ⟨i, by simpa using hi⟩ := hget.symm
    refine ⟨hv, fun u hu => Fin.le_def.2 (Nat.le_of_not_lt fun hlt => ?_)⟩
    have hnot := hbefore u.val hlt
    rw [List.getElem_finRange] at hnot
    simp only [Bool.not_eq_true'] at hnot
    exact Bool.false_ne_true (hnot.symm.trans hu)
  · rintro ⟨hv, hleast⟩
    refine ⟨hv, v.val, by simp, by simp, fun j hj => ?_⟩
    rw [List.getElem_finRange, Bool.not_eq_true', Bool.eq_false_iff]
    exact fun hu => Nat.not_le_of_lt hj (Fin.le_def.1 (hleast _ hu))

theorem first?_eq_none_iff {p : GraphNode → Bool} :
    graph.first? p = none ↔ ∀ v, p (graph.node v) = false := by
  rw [first?, List.find?_eq_none]
  simp [List.mem_finRange]

/-- An edge leads to the first target that answers to the key of a linked file, unless the edges of
the owner are left out. -/
theorem mem_edges_of_linked {u v : graph.Position} {file : String}
    (hwalked : ¬ (graph.options.mode = .topLevel ∧ graph.isAggregate (graph.node u).target = true))
    (hfile : file ∈ (graph.node u).target.linkedFiles)
    (hproducing : graph.producing? (productKey file) = some v) : v ∈ graph.edges u := by
  have hreference : .file file ∈ (graph.node u).target.references :=
    List.mem_append_right _ (List.mem_map_of_mem hfile)
  exact mem_edges_of_referent? hwalked hreference hproducing

/-! ### Namesakes -/

/-- What the file of a product leads to, if there is a target that builds it: the first of all that
build it and of all that merely have its name. -/
theorem exists_producing? {key : String} (hbuilt : ∃ w, (graph.node w).Builds key) :
    ∃ v, graph.producing? key = some v ∧
      (∀ w, (graph.node w).Builds key ∨ (graph.node w).IsNamesake key → v ≤ w) ∧
      ((graph.node v).Builds key ∨ (graph.node v).IsNamesake key) := by
  cases hproducing : graph.producing? key with
  | none =>
    obtain ⟨w, hw⟩ := hbuilt
    have hnot := first?_eq_none_iff.1 hproducing w
    rw [GraphNode.answersTo_iff.2 (Or.inl hw)] at hnot
    cases hnot
  | some v =>
    obtain ⟨hv, hleast⟩ := first?_eq_some_iff.1 hproducing
    exact ⟨v, rfl, fun w hw => hleast w (GraphNode.answersTo_iff.2 hw), GraphNode.answersTo_iff.1 hv⟩

/-- A namesake behind the target that builds the product. -/
def kitGraph : BuildGraph :=
  ofProjects { path := "/w/App.xcodeproj", targets := [
    { name := "App", linkedFiles := ["Core.framework"] },
    { name := "Engine", productName := some "Core" },
    { name := "Core", productName := some "Kit" }] } [] {}

/-- **Links to products**: if a target builds the product of a linked file, then the file has an
edge to the first target that builds it or has its name, and that target builds it exactly if none
that merely has the name comes before all that build it. -/
theorem linked_edge_builds_iff {u : graph.Position} {file : String}
    (hwalked : ¬ (graph.options.mode = .topLevel ∧ graph.isAggregate (graph.node u).target = true))
    (hfile : file ∈ (graph.node u).target.linkedFiles)
    (hbuilt : ∃ w, (graph.node w).Builds (productKey file)) :
    let key := productKey file
    ∃ v ∈ graph.edges u, graph.producing? key = some v ∧
      (∀ w, (graph.node w).Builds key ∨ (graph.node w).IsNamesake key → v ≤ w) ∧
      ((graph.node v).Builds key ↔
        ∀ c, (graph.node c).IsNamesake key → ∃ w, (graph.node w).Builds key ∧ w < c) := by
  intro key
  obtain ⟨v, hproducing, hleast, hv⟩ := exists_producing? hbuilt
  refine ⟨v, mem_edges_of_linked hwalked hfile hproducing, hproducing, hleast, ?_⟩
  constructor
  · intro hbuilds c hc
    refine ⟨v, hbuilds, lt_of_le_of_ne (hleast c (Or.inr hc)) ?_⟩
    rintro rfl
    exact hc.2 hbuilds
  · intro hbehind
    rcases hv with hbuilds | hnamesake
    · exact hbuilds
    · -- a namesake that comes first comes before all that build the product
      obtain ⟨w, hw, hlt⟩ := hbehind v hnamesake
      exact absurd hlt (not_lt_of_ge (hleast w (Or.inl hw)))

/-- `Engine` builds `Core` and comes before the target of that name. -/
theorem linked_edge_builds_iff_kit :
    let app : kitGraph.Position := ⟨0, by decide⟩
    ∃ v ∈ kitGraph.edges app, (kitGraph.node v).Builds "Core" := by
  intro app
  obtain ⟨v, hedge, -, -, hbuilds⟩ := @linked_edge_builds_iff kitGraph app "Core.framework"
    (by decide) (by decide) ⟨⟨1, by decide⟩, by decide⟩
  exact ⟨v, hedge, hbuilds.2 (by decide)⟩

/-- With the two targets in the other order the edge goes to the one that builds `Kit`. -/
theorem linked_edge_namesake :
    let graph := ofProjects { path := "/w/App.xcodeproj", targets := [
      { name := "App", linkedFiles := ["Core.framework"] },
      { name := "Core", productName := some "Kit" },
      { name := "Engine", productName := some "Core" }] } [] {}
    let app : graph.Position := ⟨0, by decide⟩
    (∃ w, (graph.node w).Builds (productKey "Core.framework")) ∧
      ∃ v, graph.edges app = [v] ∧ (graph.node v).IsNamesake (productKey "Core.framework") := by
  decide

/-! ### Names with dots -/

/-- A product whose name starts with a dot. -/
def dottedGraph : BuildGraph :=
  ofProjects { path := "/w/App.xcodeproj", targets := [
    { name := "App", linkedFiles := ["Frameworks/Core.tbd", ".Core-1é.framework"] },
    { name := "Kit", productName := some ".Core-1é" }] } [] { mode := .full }

/-- **Files of products**: let no other target than `t` answer to the key of its product or of the
files of that product. Then these files lead to `t`, wherever the name of the product has no dot
after its first character or the target's own name has the key; and otherwise they lead
nowhere. -/
theorem linked_edge_of_framework {t : graph.Position} {product ext : String}
    (hbuilds : (graph.node t).target.product = product)
    (hproduct : product ≠ "") (hslash : '/' ∉ product.toList)
    (hext : '/' ∉ ext.toList ∧ '.' ∉ ext.toList)
    (honly : ∀ v, v ≠ t → (graph.node v).answersTo (productKey product) = false ∧
      (graph.node v).answersTo (productKey (product ++ "." ++ ext)) = false) :
    let file := product ++ "." ++ ext
    let answers := '.' ∉ product.toList.tail ∨
      productKey (graph.node t).target.name = productKey file
    (answers → ∀ u, graph.options.mode = .full → file ∈ (graph.node u).target.linkedFiles →
      t ∈ graph.edges u) ∧
    (¬ answers → graph.producing? (productKey file) = none) := by
  intro file answers
  have hanswers : (graph.node t).answersTo (productKey file) = true ↔ answers := by
    rw [GraphNode.answersTo_iff_name, GraphNode.Builds, hbuilds,
      productKey_eq_productKey_file_iff hproduct hslash hext]
  constructor
  · intro hanswer u hmode hfile
    refine mem_edges_of_linked ?_ hfile (first?_eq_some_iff.2 ⟨hanswers.2 hanswer, fun v hv => ?_⟩)
    · rintro ⟨htop, -⟩
      rw [hmode] at htop
      cases htop
    · by_cases hvt : v = t
      · exact le_of_eq hvt.symm
      · rw [(honly v hvt).2] at hv
        cases hv
  · intro hanswer
    refine first?_eq_none_iff.2 fun v => ?_
    by_cases hvt : v = t
    · rw [hvt, Bool.eq_false_iff]
      exact mt hanswers.1 hanswer
    · exact (honly v hvt).2

/-- A dot at the start, a hyphen and a letter beyond ASCII do no harm. -/
theorem linked_edge_of_framework_dotted :
    let app : dottedGraph.Position := ⟨0, by decide⟩
    let kit : dottedGraph.Position := ⟨1, by decide⟩
    kit ∈ dottedGraph.edges app := by
  intro app kit
  have hfiles := @linked_edge_of_framework dottedGraph kit ".Core-1é" "framework" (by decide)
    (by decide) (by decide) (by decide) (by decide)
  exact hfiles.1 (by decide) app (by decide) (by decide)

/-- A dot inside the name does: nothing leads to `Acme.Core`. -/
theorem linked_edge_inner_dot :
    let graph := ofProjects { path := "/w/App.xcodeproj", targets := [
      { name := "App", linkedFiles := ["Acme.Core.framework"] },
      { name := "Acme.Core" }] } [] { mode := .full }
    let app : graph.Position := ⟨0, by decide⟩
    let core : graph.Position := ⟨1, by decide⟩
    (graph.node core).target.product = "Acme.Core" ∧
      (∀ v, v ≠ core → (graph.node v).answersTo (productKey "Acme.Core") = false ∧
        (graph.node v).answersTo (productKey "Acme.Core.framework") = false) ∧
      "Acme.Core.framework" ∈ (graph.node app).target.linkedFiles ∧
      core ∉ graph.edges app := by
  decide

end BuildGraph

end BuildSettings
