import Gamebook.Act
import Gamebook.Stage.Basic

/-! Parts of a player beside the stage that they share. -/
namespace Gamebook

/-- A part of a player together with the stage. -/
structure Staged (σ : Type) where
  stage : Stage
  part : σ

namespace Staged

variable {σ α : Type}

def onStage (x : Act Stage α) : Act (Staged σ) α :=
  .within (·.stage) (fun s stage => { s with stage }) x

def onPart (x : Act σ α) : Act (Staged σ) α :=
  .within (·.part) (fun s part => { s with part }) x

@[simp] theorem onStage_apply (x : Act Stage α) (s : Staged σ) :
    onStage x s = ⟨{ s with stage := (x s.stage).state }, (x s.stage).notices, (x s.stage).value⟩ := rfl

@[simp] theorem onPart_apply (x : Act σ α) (s : Staged σ) :
    onPart x s = ⟨{ s with part := (x s.part).state }, (x s.part).notices, (x s.part).value⟩ := rfl

end Staged
end Gamebook
