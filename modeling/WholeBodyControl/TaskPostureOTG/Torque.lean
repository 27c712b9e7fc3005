import WholeBodyControl.TaskPostureOTG.Step

/-! The torque of a tick in exact arithmetic: the posture part never acts in the task
space, and the task part realises the commanded task force. -/
namespace WholeBodyControl.TaskPostureOTG
open Matrix Eigen TaskPosture

variable {ndof : ℕ}

/-- The posture torque lies in the kernel of `Jbarᵀ`; above the threshold the task force is met. -/
theorem stepTaskPosture_posture_in_nullspace (lib : Reflexxes ℝ) (svd : SVD ℝ)
    (model : Model ℝ ndof) (cfg : Config ℝ ndof) (ct : Cursor ℝ 3) (cq : Cursor ℝ ndof)
    (hA : model.dyn.invMassInertia.PosSemidef) {u : Matrix (Fin 3) (Fin 3) ℝ} {sv : Fin 3 → ℝ}
    (hsvd :
      svd ⟨3, 3, invLambda (jxOf model cfg.controlPoint) model.dyn.invMassInertia⟩ = ⟨u, sv⟩)
    (hs : IsSVD (invLambda (jxOf model cfg.controlPoint) model.dyn.invMassInertia) u sv)
    {r : StepResult ℝ} {tau : DVec ℝ}
    (hr : stepTaskPosture lib svd model cfg.toUiToCtrlS (cursors ct cq) = some r)
    (hf : r.outcome = .fellOff tau) :
    let jx := jxOf model cfg.controlPoint
    let invA := model.dyn.invMassInertia
    let lambda := pinv svd (invLambda jx invA)
    let ns := nullspace (jbar invA jx lambda) jx
    ∃ (ct' : Cursor ℝ 3) (fP : Fin ndof → ℝ) (x : Fin ndof → ℝ),
      r.cursor .TASK = ct'.toOTGCursor ∧ tau = ⟨ndof, x⟩ ∧
      let fT := cfg.task.kp * (eeposOf model cfg.controlPoint - ct'.posClean) +
        cfg.task.kd * (jx *ᵥ model.state.velocity - ct'.velClean)
      let tauP := tauPosture ns (pinv svd (ns * invA)) fP
      x = tauTask jx lambda fT + tauP + model.dyn.gravity ∧
      (jbar invA jx lambda)ᵀ *ᵥ tauP = 0 ∧
      ((∀ i, 1e-3 < sv i) → (jx * invA) *ᵥ (x - model.dyn.gravity) = -fT) := by
  intro jx invA lambda ns
  rw [stepTaskPosture_toUiToCtrlS] at hr
  obtain rfl := Option.some.inj hr
  have hl : lambda = pseudoInverse u sv 1e-3 := by simp only [lambda, pinv, hsvd]
  have hPSD := invLambda_posSemidef jx hA
  have hgen : lambda * invLambda jx invA * lambda = lambda := by
    rw [hl]; exact pseudoInverse_mul_mul hPSD hs (by norm_num)
  simp only [stepTyped] at hf ⊢
  split_ifs at hf ⊢
  cases hf
  refine ⟨_, _, _, rfl, rfl, rfl,
    jbar_transpose_tauPosture hgen _ _, fun hall => ?_⟩
  have hinv : invLambda jx invA * lambda = 1 := by
    rw [hl]; exact mul_pseudoInverse_eq_one hPSD hs (by norm_num) hall
  have hlt : lambdaᵀ = lambda := by rw [hl]; exact conj_transpose _
  rw [add_sub_cancel_right, mulVec_add, mul_tauTask hinv,
    mul_tauPosture (transpose_eq_of_posSemidef hA) hlt hinv, add_zero]

/-- Four joints, the first three moving the end effector along the axes, unit `invA` and gravity. -/
def modelArm : Model ℝ 4 :=
  ⟨⟨fun _ _ _ => ![1, 2, 3], fun _ _ _ => Matrix.of fun i j => if (i : ℕ) = j then 1 else 0, 1,
    fun _ => 1⟩, ⟨fun _ => 1, 0, 0⟩⟩

def configUnit : Config ℝ 4 := ⟨0, ⟨0, 0, 0, 1, 1, false⟩, ⟨0, 0, 0, 1, 1, false⟩⟩

theorem stepTaskPosture_posture_in_nullspace_arm :
    let jx := jxOf modelArm configUnit.controlPoint
    ∃ r tau, modelArm.dyn.invMassInertia.PosSemidef ∧
      svdUnit ⟨3, 3, invLambda jx modelArm.dyn.invMassInertia⟩ = ⟨1, fun _ => 1⟩ ∧
      IsSVD (invLambda jx modelArm.dyn.invMassInertia) 1 (fun _ => 1) ∧
      stepTaskPosture reflexxesHold svdUnit modelArm configUnit.toUiToCtrlS
        (cursors (Cursor.init 3) (Cursor.init 4)) = some r ∧ r.outcome = .fellOff tau ∧
      let invA := modelArm.dyn.invMassInertia
      let lambda := pinv svdUnit (invLambda jx invA)
      let ns := nullspace (jbar invA jx lambda) jx
      ∃ (ct' : Cursor ℝ 3) (fP : Fin 4 → ℝ) (x : Fin 4 → ℝ),
        r.cursor .TASK = ct'.toOTGCursor ∧ tau = ⟨4, x⟩ ∧
        let fT := configUnit.task.kp * (eeposOf modelArm configUnit.controlPoint - ct'.posClean) +
          configUnit.task.kd * (jx *ᵥ modelArm.state.velocity - ct'.velClean)
        let tauP := tauPosture ns (pinv svdUnit (ns * invA)) fP
        x = tauTask jx lambda fT + tauP + modelArm.dyn.gravity ∧
        (jbar invA jx lambda)ᵀ *ᵥ tauP = 0 ∧
        ((∀ _ : Fin 3, (1e-3 : ℝ) < 1) →
          (jx * invA) *ᵥ (x - modelArm.dyn.gravity) = -fT) := by
  intro jx
  have hI : invLambda jx modelArm.dyn.invMassInertia = 1 := by
    ext i j
    fin_cases i <;> fin_cases j <;>
      simp [jx, invLambda, jxOf, taskJacobian, modelArm, Matrix.mul_apply, Fin.sum_univ_four] <;>
      decide
  have hsvd : svdUnit ⟨3, 3, invLambda jx modelArm.dyn.invMassInertia⟩ = ⟨1, fun _ => 1⟩ := by
    simp only [svdUnit, SVDOut.mk.injEq, and_true]
    ext i j
    simp [Matrix.one_apply, Fin.val_inj]
  have hs : IsSVD (invLambda jx modelArm.dyn.invMassInertia) 1 (fun _ => 1) :=
    ⟨by simp, ⟨1, by simp, by simp [hI]⟩, fun _ => zero_le_one⟩
  have hr := stepTaskPosture_toUiToCtrlS svdUnit modelArm reflexxesHold configUnit
    (Cursor.init 3) (Cursor.init 4)
  obtain ⟨tau, hf⟩ : ∃ tau, (stepTyped svdUnit modelArm reflexxesHold configUnit
      (Cursor.init 3) (Cursor.init 4)).outcome = .fellOff tau := by
    simp [stepTyped, Cursor.levelStep, Cursor.next, reflexxesHold]
  exact ⟨_, tau, PosSemidef.one, hsvd, hs, hr, hf, stepTaskPosture_posture_in_nullspace
    reflexxesHold svdUnit modelArm configUnit _ _ PosSemidef.one hsvd hs hr hf⟩

end WholeBodyControl.TaskPostureOTG
