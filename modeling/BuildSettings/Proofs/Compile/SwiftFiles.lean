import BuildSettings.Proofs.Compile.Input
import Mathlib.Data.List.Induction

/-!
# The list of Swift files

The Swift files of a target are compiled together, and a file that is asked for is one of them. So
the list of files begins with it, and it must not come again among the sources, where it may be
spelled differently. `distinctPaths` goes through the paths with those that it has seen.

* `distinctPaths_append` — a list is gone through in two parts, the second one with the first seen.
* `distinctPaths_eq_firstSpellings` — what is kept, by places in the list.
* `filter_distinctPaths` — of the spellings of a path the first one is kept, and no other.
* `swiftFiles_firstSpellings` — the list of files.
-/

namespace BuildSettings

/-! ### Paths that take the same steps -/

namespace Path

variable {p q : Path}

/-- Two paths are taken for the same if they take the same steps, in whatever spelling. -/
theorem same_iff : p.same q = true ↔ p.components = q.components :=
  beq_iff_eq

/-- So a test against a path does not depend on its spelling. -/
theorem same_congr (h : p.components = q.components) (r : Path) : p.same r = q.same r := by
  unfold same
  rw [h]

end Path

namespace Compile

variable {p : Path} {seen seen' xs ys ps before more after : List Path}

theorem isSwiftFile_congr {q : Path} (h : p.components = q.components) :
    isSwiftFile p = isSwiftFile q := by
  unfold isSwiftFile Path.extension? Path.fileName?
  rw [h]

/-! ### Paths that have been seen -/

theorem any_same_iff : seen.any p.same = true ↔ ∃ q ∈ seen, q.components = p.components := by
  rw [List.any_eq_true]
  exact exists_congr fun q => and_congr_right fun _ => Path.same_iff.trans eq_comm

/-- Of the paths that have been seen only the steps count, so a list of them in another order, or
with another spelling, does as well. -/
theorem distinctPaths_congr (h : ∀ p : Path, seen.any p.same = seen'.any p.same) :
    distinctPaths seen ps = distinctPaths seen' ps := by
  induction ps generalizing seen seen' with
  | nil => rfl
  | cons p ps ih =>
    rw [distinctPaths, distinctPaths, h p]
    split
    next => exact ih h
    next =>
      have hcons : ∀ q : Path, (p :: seen).any q.same = (p :: seen').any q.same := by
        intro q
        rw [List.any_cons, List.any_cons, h q]
      rw [ih hcons]

/-- A path that has been seen need not be remembered again. -/
theorem distinctPaths_seen_cons (h : seen.any p.same = true) :
    distinctPaths (p :: seen) ps = distinctPaths seen ps := by
  refine distinctPaths_congr fun q => ?_
  rw [List.any_cons]
  cases hq : q.same p with
  | false => rw [Bool.false_or]
  | true =>
    obtain ⟨r, hr, hsteps⟩ := any_same_iff.1 h
    have hany : seen.any q.same = true :=
      any_same_iff.2 ⟨r, hr, hsteps.trans (Path.same_iff.1 hq).symm⟩
    rw [hany, Bool.true_or]

/-- The rest of a list is gone through with its head seen, whether that is kept or not. -/
theorem distinctPaths_cons (seen : List Path) (p : Path) (ps : List Path) :
    distinctPaths seen (p :: ps) =
      (if seen.any p.same then [] else [p]) ++ distinctPaths (p :: seen) ps := by
  rw [distinctPaths]
  split
  next h => rw [distinctPaths_seen_cons h, List.nil_append]
  next => rfl

/-- Two lists are gone through one after the other, the second one with all of the first one seen.
-/
theorem distinctPaths_append (seen xs ys : List Path) :
    distinctPaths seen (xs ++ ys) =
      distinctPaths seen xs ++ distinctPaths (xs.reverse ++ seen) ys := by
  induction xs generalizing seen with
  | nil => rfl
  | cons x xs ih =>
    rw [List.cons_append, distinctPaths_cons, ih, distinctPaths_cons, List.append_assoc,
      List.reverse_cons, List.append_assoc]
    rfl

/-- Nothing is kept of paths that have all been seen. -/
theorem distinctPaths_eq_nil (h : ∀ p ∈ ps, seen.any p.same = true) :
    distinctPaths seen ps = [] := by
  induction ps with
  | nil => rfl
  | cons p ps ih =>
    rw [distinctPaths, if_pos (h p (List.mem_cons_self ..))]
    exact ih fun q hq => h q (List.mem_cons_of_mem _ hq)

/-- Paths that stand further in front already make no difference: none of them is kept, and what is
seen behind them was seen before them. -/
theorem distinctPaths_insert (h : ∀ p ∈ more, before.any p.same = true) :
    distinctPaths [] (before ++ more ++ after) = distinctPaths [] (before ++ after) := by
  -- behind `more` the same paths have been seen as in front of it, and of `more` nothing is kept
  have hseen : ∀ p : Path, (more.reverse ++ (before.reverse ++ [])).any p.same =
      (before.reverse ++ []).any p.same := by
    intro p
    rw [List.append_nil, List.any_append, List.any_reverse, List.any_reverse]
    cases hmore : more.any p.same with
    | false => rw [Bool.false_or]
    | true =>
      obtain ⟨q, hq, hsteps⟩ := any_same_iff.1 hmore
      obtain ⟨r, hr, hsteps'⟩ := any_same_iff.1 (h q hq)
      rw [any_same_iff.2 ⟨r, hr, hsteps'.trans hsteps⟩, Bool.true_or]
  have hnone : distinctPaths (before.reverse ++ []) more = [] := by
    refine distinctPaths_eq_nil fun p hp => ?_
    rw [List.append_nil, List.any_reverse]
    exact h p hp
  rw [List.append_assoc, distinctPaths_append, distinctPaths_append, hnone, List.nil_append,
    distinctPaths_congr hseen, distinctPaths_append]

/-! ### What is kept -/

/-- The paths at whose places no path before them takes the same steps, in their order. -/
def firstSpellings (paths : List Path) : List Path :=
  (paths.zipIdx.filter fun e => (paths.take e.2).all fun q => !e.1.same q).map (·.1)

/-- A path at the end is a first spelling if no path before it takes the same steps, and it changes
nothing of what stands before. -/
theorem firstSpellings_concat (ps : List Path) (p : Path) :
    firstSpellings (ps ++ [p]) = firstSpellings ps ++ if ps.any p.same then [] else [p] := by
  have hold : (ps.zipIdx.filter fun e => ((ps ++ [p]).take e.2).all fun q => !e.1.same q) =
      ps.zipIdx.filter fun e => (ps.take e.2).all fun q => !e.1.same q := by
    refine List.filter_congr fun e he => ?_
    obtain ⟨-, hlt, -⟩ := List.mem_zipIdx he
    rw [List.take_append_of_le_length (by omega)]
  have hnew : ((ps ++ [p]).take ps.length).all (fun q => !p.same q) = !ps.any p.same := by
    rw [List.take_left, List.not_any_eq_all_not]
  -- the places in front keep what is before them, and only the last one is new
  unfold firstSpellings
  rw [List.zipIdx_append, List.filter_append, List.map_append, hold, Nat.zero_add,
    List.zipIdx_singleton, List.filter_cons, hnew]
  cases ps.any p.same <;> rfl

/-- Going through a list with a record of what has been seen leaves the first spellings. They are
defined by what stands before each place, without such a record. -/
theorem distinctPaths_eq_firstSpellings (ps : List Path) :
    distinctPaths [] ps = firstSpellings ps := by
  -- from behind, where what comes before a place is the list without its last path
  induction ps using List.reverseRecOn with
  | nil => rfl
  | append_singleton ps p ih =>
    rw [distinctPaths_append, firstSpellings_concat, ih, distinctPaths_cons, List.append_nil,
      List.any_reverse]
    exact congrArg (firstSpellings ps ++ ·) (List.append_nil _)

/-- Of all spellings of a path the first one is kept, unless the path has been seen. The list of
seen paths is general, since the recursion adds to it. -/
theorem filter_distinctPaths (p : Path) (seen ps : List Path) :
    (distinctPaths seen ps).filter p.same =
      if seen.any p.same then [] else (ps.find? p.same).toList := by
  induction ps generalizing seen with
  | nil => rw [distinctPaths, List.filter_nil, List.find?_nil, Option.toList_none, ite_self]
  | cons q ps ih =>
    rw [distinctPaths_cons, List.filter_append, ih (q :: seen), List.any_cons]
    cases hpq : p.same q with
    | true =>
      -- `p` has been seen exactly if `q` has, and behind `q` it is seen
      have hsame : p.same = q.same := funext (Path.same_congr (Path.same_iff.1 hpq))
      rw [List.find?_cons_of_pos hpq, ← hsame]
      cases seen.any p.same <;> simp [hpq]
    | false =>
      rw [List.find?_cons_of_neg (by rw [hpq]; decide)]
      cases seen.any q.same <;> simp [hpq]

/-- What is kept has not been seen. -/
theorem any_same_of_mem_distinctPaths (h : p ∈ distinctPaths seen ps) :
    seen.any p.same = false := by
  have hmem : p ∈ (distinctPaths seen ps).filter p.same :=
    List.mem_filter.2 ⟨h, Path.same_iff.2 rfl⟩
  rw [filter_distinctPaths] at hmem
  split at hmem
  next => cases hmem
  next hseen => exact Bool.eq_false_iff.2 hseen

/-- No two paths that are kept take the same steps. -/
theorem pairwise_distinctPaths (seen ps : List Path) :
    (distinctPaths seen ps).Pairwise fun p q => p.components ≠ q.components := by
  fun_induction distinctPaths seen ps with
  | case1 seen => exact .nil
  | case2 seen p ps hseen ih => exact ih
  | case3 seen p ps hnew ih =>
    refine List.pairwise_cons.2 ⟨fun q hq hsteps => ?_, ih⟩
    have hunseen := any_same_of_mem_distinctPaths hq
    rw [any_same_iff.2 ⟨p, List.mem_cons_self .., hsteps⟩] at hunseen
    cases hunseen

/-! ### The list of files -/

variable {ctx : CompileContext}

/-- The Swift files among the file that is asked for and the sources. -/
def swiftPaths (ctx : CompileContext) : List Path :=
  (ctx.file.toList ++ ctx.sources).filter fun p => p.extension? == some "swift"

/-- The list of the Swift compiler: the Swift files without repetitions, each as it is spelled. -/
theorem swiftFiles_eq (h : ctx.compiler = .swift) :
    swiftFiles.arguments ctx = (distinctPaths [] (swiftPaths ctx)).map (·.text) := by
  unfold swiftFiles
  dsimp only
  rw [if_pos (CompileContext.isSwift_eq_true_iff.2 h)]
  rfl

/-- A source that stands further in front already, in any spelling, makes no difference. The file
that is asked for stands in front of all sources. -/
theorem swiftFiles_insert (h : ctx.compiler = .swift) (hsources : ctx.sources = before ++ after)
    (hmore : ∀ p ∈ more, ∃ q ∈ ctx.file.toList ++ before, q.components = p.components) :
    swiftFiles.arguments { ctx with sources := before ++ more ++ after } =
      swiftFiles.arguments ctx := by
  have hseen : ∀ p ∈ more.filter isSwiftFile,
      ((ctx.file.toList ++ before).filter isSwiftFile).any p.same = true := by
    intro p hp
    obtain ⟨hmem, hswift⟩ := List.mem_filter.1 hp
    obtain ⟨q, hq, hsteps⟩ := hmore p hmem
    have hswift' : isSwiftFile q = true := (isSwiftFile_congr hsteps).trans hswift
    exact any_same_iff.2 ⟨q, List.mem_filter.2 ⟨hq, hswift'⟩, hsteps⟩
  -- the sources are split where the further ones go in
  have hpaths : swiftPaths ctx =
      (ctx.file.toList ++ before).filter isSwiftFile ++ after.filter isSwiftFile := by
    rw [← List.filter_append, List.append_assoc, ← hsources]
    rfl
  have hpaths' : swiftPaths { ctx with sources := before ++ more ++ after } =
      (ctx.file.toList ++ before).filter isSwiftFile ++ more.filter isSwiftFile ++
        after.filter isSwiftFile := by
    have happend : ctx.file.toList ++ (before ++ more ++ after) =
        ctx.file.toList ++ before ++ more ++ after := by
      simp only [List.append_assoc]
    rw [← List.filter_append, ← List.filter_append, ← happend]
    rfl
  rw [swiftFiles_eq h, hpaths, ← distinctPaths_insert hseen, ← hpaths', ← swiftFiles_eq]
  exact h

/-- **The list of Swift files** has the texts of those Swift files, the one that is asked for first,
before which no other takes the same steps. So no two of its texts stand for the same path, and of
all spellings of a path it has the first one, once. Sources that come again, in any spelling, make
no difference. -/
theorem swiftFiles_firstSpellings (h : ctx.compiler = .swift) :
    swiftFiles.arguments ctx = (firstSpellings (swiftPaths ctx)).map (·.text) ∧
    (swiftFiles.arguments ctx).Pairwise (fun a b => Path.components ⟨a⟩ ≠ Path.components ⟨b⟩) ∧
    (∀ p : Path, (swiftFiles.arguments ctx).filter (fun a => p.same ⟨a⟩) =
      ((swiftPaths ctx).find? p.same).toList.map (·.text)) ∧
    ∀ before more after, ctx.sources = before ++ after →
      (∀ p ∈ more, ∃ q ∈ ctx.file.toList ++ before, q.components = p.components) →
      swiftFiles.arguments { ctx with sources := before ++ more ++ after } =
        swiftFiles.arguments ctx := by
  refine ⟨?_, ?_, fun p => ?_, fun before more after => swiftFiles_insert h⟩
  · rw [swiftFiles_eq h, distinctPaths_eq_firstSpellings]
  · rw [swiftFiles_eq h, List.pairwise_map]
    exact pairwise_distinctPaths [] _
  · rw [swiftFiles_eq h, List.filter_map]
    exact congrArg (List.map (·.text)) (filter_distinctPaths p [] _)

/-- The file that is asked for stands among the sources in another spelling, and further sources are
only spelled differently. -/
theorem swiftFiles_firstSpellings_respelled :
    let ctx := CompileContext.swiftTarget.forFile ⟨"/p/./B.swift"⟩
    swiftFiles.arguments ctx = ["/p/./B.swift", "/p/A.swift"] ∧
      swiftFiles.arguments { ctx with
        sources := [⟨"/p/A.swift"⟩] ++ [⟨"/p//A.swift/."⟩, ⟨"/p/B.swift/"⟩] ++
          [⟨"/p//B.swift"⟩, ⟨"/p/Bridge.h"⟩] } = swiftFiles.arguments ctx := by
  intro ctx
  obtain ⟨hlist, -, -, hinsert⟩ := @swiftFiles_firstSpellings ctx (by decide)
  exact ⟨hlist.trans (by decide), hinsert _ _ _ rfl (by decide)⟩

end Compile

end BuildSettings
