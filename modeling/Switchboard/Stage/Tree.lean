import Switchboard.Stage.Basic

/-!
# Trees of stages

How stages are put together, as data.  The leaves are stages of any kind, given by their names.

* `StageTree.run`: the stage that a tree stands for.
-/

namespace Switchboard

/-- Stages put together from leaves. -/
inductive StageTree (L : Type) where
  | leaf (stage : L)
  | identity
  | absent
  | chain (first second : StageTree L)
  | guarded (outer guard : StageTree L)
  | composeAll (stages : List (StageTree L))
  | chainAll (stages : List (StageTree L))
  | logged (name : Text) (stage : StageTree L)

namespace StageTree

variable {L W α : Type}

mutual

/-- The stage a tree stands for. -/
def run (leaves : L → Stage W α α) : StageTree L → Stage W α α
  | leaf stage => leaves stage
  | identity => Stage.identity
  | absent => Stage.absent
  | chain first second => (first.run leaves).andThen (second.run leaves)
  | guarded outer guard => (outer.run leaves).guardedBy (guard.run leaves)
  | composeAll stages => Stage.composeAll (runAll leaves stages)
  | chainAll stages => Stage.chainAll (runAll leaves stages)
  | logged name stage => (stage.run leaves).logged name

/-- The stages of a list of trees. -/
def runAll (leaves : L → Stage W α α) : List (StageTree L) → List (Stage W α α)
  | [] => []
  | stage :: stages => stage.run leaves :: runAll leaves stages

end

end StageTree

end Switchboard
