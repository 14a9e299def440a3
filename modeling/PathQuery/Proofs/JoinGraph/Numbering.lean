/-
**The aliases of a join graph.**

One hop adds at most one join, under the next alias of its stem (`join_numbered`). So after any run
of paths, those that lead nowhere included, the aliases of a graph are known from its tables alone
(`numbering_of_resolveAll`).
-/

import PathQuery.Proofs.Alias.Numbered
import PathQuery.Proofs.JoinGraph.Run

namespace PathQuery.JoinGraph

open Alias (Numbered numbered sharing)

/-- **One hop goes on with the numbers.** -/
theorem join_numbered {graph : JoinGraph} (counted : Numbered graph.joins)
    (leftTable segment : String) : Numbered (graph.join leftTable segment).graph.joins := by
  have step := graph.joined leftTable segment
  generalize graph.join leftTable segment = result at step ⊢
  cases step with
  | known join found => exact counted
  | refused => exact counted
  | added hop name absent reads allocated =>
    have letters := (Hop.joinable?_eq_some_iff.mp reads).2
    rw [← isSome_stem?] at letters
    obtain ⟨stem, stemmed⟩ := Option.isSome_iff_exists.mp letters
    rw [Alias.allocate?_of_numbered counted stemmed] at allocated
    exact counted.snoc stemmed (Option.some.inj allocated).symm

theorem numbered_resolveAll (source : String) (kind : Option JoinKind)
    (calls : List (String × String)) :
    Numbered ((JoinGraph.empty source kind).resolveAll calls).joins :=
  resolveAll_preserves (P := fun graph => Numbered graph.joins)
    (fun _ leftTable segment counted _ => join_numbered counted leftTable segment) calls .nil

/-- **The aliases of a graph**, after any run of paths. The alias of a join is the stem of its table
with a number that counts the joins before it of the same stem, its own table's or another's. So
the joins of one stem are numbered from one, in order and without gaps. -/
theorem numbering_of_resolveAll (source : String) (kind : Option JoinKind)
    (calls : List (String × String)) :
    (∀ earlier join later,
      ((JoinGraph.empty source kind).resolveAll calls).joins = earlier ++ join :: later →
      ∃ stem, stem? join.rightTable = some stem ∧
        join.name = stem ++ toString (1 + sharing stem earlier)) ∧
    ∀ stem,
      (((JoinGraph.empty source kind).resolveAll calls).joins.filter (Join.hasStem stem)).map
          (·.name) =
        (List.range' 1 (sharing stem ((JoinGraph.empty source kind).resolveAll calls).joins)).map
          (numbered stem) := by
  have counted := numbered_resolveAll source kind calls
  exact ⟨fun _ _ _ place => Alias.name_of_numbered counted place, Alias.names_of_hasStem counted⟩

/-- Three tables with one stem. The second path leads nowhere, but its first hop is joined. -/
def collidingCalls : List (String × String) :=
  [("First", "[RightTable:Id:Id].[RigidTabs:Id:Id].Value"),
    ("Second", "[RigTab:Id:Id].[_1:Id:Id].Value"), ("Third", "[RightTable:Id:Other].Value")]

/-- The joins that they come to. -/
def collidingJoins : List Join :=
  [⟨some .left, "Source", "Id", "RightTable", "Id", "RigTab1", "[RightTable:Id:Id]"⟩,
    ⟨some .left, "RigTab1", "Id", "RigidTabs", "Id", "RigTab2", "[RigidTabs:Id:Id]"⟩,
    ⟨some .left, "Source", "Id", "RigTab", "Id", "RigTab3", "[RigTab:Id:Id]"⟩,
    ⟨some .left, "Source", "Other", "RightTable", "Id", "RigTab4", "[RightTable:Id:Other]"⟩]

/-- The second join to `RightTable` is the fourth of its stem. -/
theorem numbering_of_collidingCalls :
    ((JoinGraph.empty "Source" (some .left)).resolveAll collidingCalls).joins = collidingJoins ∧
      (∃ stem, stem? "RightTable" = some stem ∧ "RigTab4" = stem ++ toString 4) ∧
      (collidingJoins.filter (Join.hasStem "RigTab")).map (·.name) =
        (List.range' 1 4).map (numbered "RigTab") := by
  have run : ((JoinGraph.empty "Source" (some .left)).resolveAll collidingCalls).joins =
      collidingJoins := by decide +kernel
  obtain ⟨single, whole⟩ := numbering_of_resolveAll "Source" (some .left) collidingCalls
  rw [run] at single whole
  obtain ⟨stem, stemmed, named⟩ := single (collidingJoins.take 3) _ [] rfl
  have short : stem? "RightTable" = some "RigTab" := by decide +kernel
  have three : sharing "RigTab" (collidingJoins.take 3) = 3 := by decide +kernel
  have four : sharing "RigTab" collidingJoins = 4 := by decide +kernel
  obtain rfl : stem = "RigTab" := Option.some.inj (stemmed.symm.trans short)
  rw [three] at named
  have joins := whole "RigTab"
  rw [four] at joins
  exact ⟨run, ⟨_, stemmed, named⟩, joins⟩

end PathQuery.JoinGraph
