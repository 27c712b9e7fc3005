import WholeBodyControl.TaskPostureOTG.State

/-! `stepTaskPosture` of `TaskPostureOTGPlugin`, on dynamically sized data, as the
plugin's `update` calls it once per tick. -/
namespace WholeBodyControl.TaskPostureOTG
open Matrix Eigen TaskPosture

variable {K : Type} {ndof : ℕ}

/-- How `stepTaskPosture` ends; its success path falls off the end of a `bool` function. -/
inductive Outcome (K : Type)
  | rejected (field : String) (rows : ℕ)
  | otgFailed (level : Level) (code : ℤ)
  | fellOff (tau : DVec K)

/-- The value `update` reads: `false` after a `return false`, `fallOff` on the success path. -/
def Outcome.ok (fallOff : Bool) : Outcome K → Bool
  | .fellOff _ => fallOff
  | _ => false

/-- A call of `stepTaskPosture`: its outcome, its buffer with cleared flags, and the cursors. -/
structure StepResult (K : Type) where
  outcome : Outcome K
  input : UiToCtrlS K
  cursor : Level → OTGCursor K

/-- The eleven sanity checks, with the field names of their `ROS_ERROR` messages. -/
def sanityChecks (ndof : ℕ) (u : UiToCtrlS K) : List (String × ℕ × ℕ) :=
  [("control_point", u.controlPoint.rows, 3),
   ("task_goal", (u.level .TASK).goal.rows, 3),
   ("task_maxvel", (u.level .TASK).maxvel.rows, 3),
   ("task_maxacc", (u.level .TASK).maxacc.rows, 3),
   ("task_kp", (u.level .TASK).kp.rows, 3),
   ("task_kd", (u.level .TASK).kd.rows, 3),
   ("posture_goal", (u.level .POSTURE).goal.rows, ndof),
   ("posture_maxvel", (u.level .POSTURE).maxvel.rows, ndof),
   ("posture_maxacc", (u.level .POSTURE).maxacc.rows, ndof),
   ("posture_kp", (u.level .POSTURE).kp.rows, ndof),
   ("posture_kd", (u.level .POSTURE).kd.rows, ndof)]

theorem firstFailure_sanityChecks {u : UiToCtrlS K} :
    firstFailure (sanityChecks ndof u) = none ↔ u.WellSized ndof := by
  simp [firstFailure_eq_none, sanityChecks, UiToCtrlS.wellSized_iff, LevelS.WellSized, and_assoc]

/-- The `goal_changed` bookkeeping of one level: the flag is cleared when it was set. -/
def clearGoalChanged (inp : UiToCtrlS K) (l : Level) : UiToCtrlS K :=
  if (inp.level l).goalChanged then inp.setGoalChanged l false else inp

def Config.clear (cfg : Config K ndof) : Level → Config K ndof
  | .TASK => { cfg with task := { cfg.task with goalChanged := false } }
  | .POSTURE => { cfg with posture := { cfg.posture with goalChanged := false } }

@[simp] theorem Config.clear_task_posture (cfg : Config K ndof) :
    (cfg.clear .TASK).posture = cfg.posture := rfl

theorem clearGoalChanged_toUiToCtrlS (cfg : Config K ndof) (l : Level) :
    clearGoalChanged cfg.toUiToCtrlS l = (cfg.clear l).toUiToCtrlS := by
  obtain ⟨cp, ⟨g, mv, ma, kp, kd, _ | _⟩, ⟨g', mv', ma', kp', kd', _ | _⟩⟩ := cfg <;>
    cases l <;>
    simp only [clearGoalChanged, UiToCtrlS.setGoalChanged, Config.clear, Config.toUiToCtrlS,
      LevelConfig.toLevelS, if_true, Bool.false_eq_true, if_false, UiToCtrlS.mk.injEq, true_and] <;>
    funext l' <;> cases l' <;> rfl

def cursors (ct : Cursor K 3) (cq : Cursor K ndof) : Level → OTGCursor K
  | .TASK => ct.toOTGCursor
  | .POSTURE => cq.toOTGCursor

@[simp] theorem cursors_task (ct : Cursor K 3) (cq : Cursor K ndof) :
    cursors ct cq .TASK = ct.toOTGCursor := rfl

@[simp] theorem cursors_posture (ct : Cursor K 3) (cq : Cursor K ndof) :
    cursors ct cq .POSTURE = cq.toOTGCursor := rfl

@[simp] theorem update_cursors_task (ct ct' : Cursor K 3) (cq : Cursor K ndof) :
    Function.update (cursors ct cq) .TASK ct'.toOTGCursor = cursors ct' cq := by
  funext l; cases l <;> rfl

@[simp] theorem update_cursors_posture (ct : Cursor K 3) (cq cq' : Cursor K ndof) :
    Function.update (cursors ct cq) .POSTURE cq'.toOTGCursor = cursors ct cq' := by
  funext l; cases l <;> rfl

section Field
variable [LinearOrderedField K]

/-- The `TypeIOTG` instances `init` creates, with a cycle time of `1e-3`. -/
def otgOf (ndof : ℕ) : Level → TypeIOTG K
  | .TASK => ⟨3, 1e-3⟩
  | .POSTURE => ⟨ndof, 1e-3⟩

/-- `kp.cwise() * poserror + kd.cwise() * velerror`. -/
def pdForce? (kp kd poserror velerror : DVec K) : Option (DVec K) :=
  (kp.cwiseMul poserror).bind fun a => (kd.cwiseMul velerror).bind a.add

/-- The terms of the task section that the rest of `stepTaskPosture` reads. -/
structure TaskTerms (K : Type) where
  jx : DMat K
  invA : DMat K
  lambda : DMat K
  curpos : DVec K
  curvel : DVec K

/-- The task section of `stepTaskPosture`, from `computeGlobalFrame` to `curvel`. -/
def taskTerms? (svd : SVD K) (model : Model K ndof) (controlPoint : DVec K) :
    Option (TaskTerms K) := do
  let cp0 ← controlPoint.get? 0
  let cp1 ← controlPoint.get? 1
  let cp2 ← controlPoint.get? 2
  let eepos := model.dyn.computeGlobalFrame cp0 cp1 cp2
  let jx ←
    DMat.block ⟨6, ndof, model.dyn.computeJacobian (eepos 0) (eepos 1) (eepos 2)⟩ 0 0 3 ndof
  let invA : DMat K := ⟨ndof, ndof, model.dyn.invMassInertia⟩
  let invLambda ← (jx.mul invA).bind (·.mul jx.transpose)
  let lambda ← pseudoInverse? svd invLambda 1e-3
  let curvel ← jx.mulVec ⟨ndof, model.state.velocity⟩
  some ⟨jx, invA, lambda, ⟨3, eepos⟩, curvel⟩

/-- `tau_task`, from the errors between the measured state and the task cursor. -/
def taskTorque? (t : TaskTerms K) (task : LevelS K) (c : OTGCursor K) : Option (DVec K) := do
  let poserror ← t.curpos.sub c.posClean
  let velerror ← t.curvel.sub c.velClean
  let f ← pdForce? task.kp task.kd poserror velerror
  (t.jx.transpose.mul t.lambda.neg).bind (·.mulVec f)

/-- The posture section of `stepTaskPosture` up to `Lambda_p`. -/
def postureTerms? (svd : SVD K) (t : TaskTerms K) : Option (DMat K × DMat K) := do
  let jbar ← (t.invA.mul t.jx.transpose).bind (·.mul t.lambda)
  let nullspace ← (jbar.mul t.jx).bind (DMat.identity t.invA.rows).sub
  let lambdaP ← (nullspace.mul t.invA).bind (pseudoInverse? svd · 1e-3)
  some (nullspace, lambdaP)

/-- `tau_posture`, from the errors between the measured state and the posture cursor. -/
def postureTorque? (state : JointState K ndof) (nullspace lambdaP : DMat K) (posture : LevelS K)
    (c : OTGCursor K) : Option (DVec K) := do
  let pe ← DVec.sub ⟨ndof, state.position⟩ c.posClean
  let ve ← DVec.sub ⟨ndof, state.velocity⟩ c.velClean
  let fp ← pdForce? posture.kp posture.kd pe ve
  (nullspace.transpose.mul lambdaP.neg).bind (·.mulVec fp)

/-- The posture level of `stepTaskPosture`, after the task level's generator succeeded. -/
def postureLevel? (lib : Reflexxes K) (svd : SVD K) (model : Model K ndof) (t : TaskTerms K)
    (tauTask : DVec K) (inp : UiToCtrlS K) (cursor : Level → OTGCursor K) :
    Option (StepResult K) := do
  let ns ← postureTerms? svd t
  let pos : DVec K := ⟨ndof, model.state.position⟩
  let vel : DVec K := ⟨ndof, model.state.velocity⟩
  let rc ← levelStep? lib (otgOf ndof .POSTURE) (inp.level .POSTURE) (cursor .POSTURE) pos vel
  let cursor := Function.update cursor .POSTURE rc.2
  let inp' := clearGoalChanged inp .POSTURE
  if rc.1 < 0 then some ⟨.otgFailed .POSTURE rc.1, inp', cursor⟩ else do
  let tauPosture ← postureTorque? model.state ns.1 ns.2 (inp.level .POSTURE) rc.2
  let tau ← (tauTask.add tauPosture).bind (·.add ⟨ndof, model.dyn.gravity⟩)
  some ⟨.fellOff tau, inp', cursor⟩

/-- `stepTaskPosture(model, in, out)`; a failed Eigen assertion or an overrun is `none`. -/
def stepTaskPosture (lib : Reflexxes K) (svd : SVD K) (model : Model K ndof)
    (inp : UiToCtrlS K) (cursor : Level → OTGCursor K) : Option (StepResult K) :=
  match firstFailure (sanityChecks ndof inp) with
  | some (field, rows) => some ⟨.rejected field rows, inp, cursor⟩
  | none => do
    let t ← taskTerms? svd model inp.controlPoint
    let rc ← levelStep? lib (otgOf ndof .TASK) (inp.level .TASK) (cursor .TASK) t.curpos t.curvel
    let cursor := Function.update cursor .TASK rc.2
    let inp' := clearGoalChanged inp .TASK
    if rc.1 < 0 then some ⟨.otgFailed .TASK rc.1, inp', cursor⟩ else do
    let tauTask ← taskTorque? t (inp.level .TASK) rc.2
    postureLevel? lib svd model t tauTask inp' cursor

/-! ### On well-sized data -/

section Typed
variable (svd : SVD K) (model : Model K ndof)

/-- `eepos.translation()` for a control point. -/
def eeposOf (cp : Fin 3 → K) : Fin 3 → K := model.dyn.computeGlobalFrame (cp 0) (cp 1) (cp 2)

/-- `Jx` for a control point. -/
def jxOf (cp : Fin 3 → K) : Matrix (Fin 3) (Fin ndof) K :=
  let e := eeposOf model cp
  taskJacobian (model.dyn.computeJacobian (e 0) (e 1) (e 2))

theorem taskTerms?_mk (cp : Fin 3 → K) :
    taskTerms? svd model ⟨3, cp⟩ =
      some ⟨⟨3, ndof, jxOf model cp⟩, ⟨ndof, ndof, model.dyn.invMassInertia⟩,
        ⟨3, 3, pinv svd (invLambda (jxOf model cp) model.dyn.invMassInertia)⟩,
        ⟨3, eeposOf model cp⟩, ⟨3, jxOf model cp *ᵥ model.state.velocity⟩⟩ := by
  simp [taskTerms?, DVec.get?, block_taskJacobian, eeposOf, jxOf, invLambda, pinv]

theorem taskTorque?_mk (jx : Matrix (Fin 3) (Fin ndof) K) (invA : DMat K)
    (lambda : Matrix (Fin 3) (Fin 3) K) (p v : Fin 3 → K) (task : LevelConfig K 3)
    (c : Cursor K 3) :
    taskTorque? ⟨⟨3, ndof, jx⟩, invA, ⟨3, 3, lambda⟩, ⟨3, p⟩, ⟨3, v⟩⟩ task.toLevelS
        c.toOTGCursor =
      some ⟨ndof,
        tauTask jx lambda (task.kp * (p - c.posClean) + task.kd * (v - c.velClean))⟩ := by
  simp [taskTorque?, pdForce?, LevelConfig.toLevelS, Cursor.toOTGCursor, tauTask]

theorem postureTerms?_mk (jx : Matrix (Fin 3) (Fin ndof) K) (invA : Matrix (Fin ndof) (Fin ndof) K)
    (lambda : Matrix (Fin 3) (Fin 3) K) (p v : DVec K) :
    postureTerms? svd ⟨⟨3, ndof, jx⟩, ⟨ndof, ndof, invA⟩, ⟨3, 3, lambda⟩, p, v⟩ =
      some (⟨ndof, ndof, nullspace (jbar invA jx lambda) jx⟩,
        ⟨ndof, ndof, pinv svd (nullspace (jbar invA jx lambda) jx * invA)⟩) := by
  simp [postureTerms?, jbar, nullspace, pinv]

theorem postureTorque?_mk (ns lambdaP : Matrix (Fin ndof) (Fin ndof) K)
    (posture : LevelConfig K ndof) (c : Cursor K ndof) :
    postureTorque? model.state ⟨ndof, ndof, ns⟩ ⟨ndof, ndof, lambdaP⟩ posture.toLevelS
        c.toOTGCursor =
      some ⟨ndof, tauPosture ns lambdaP (posture.kp * (model.state.position - c.posClean) +
        posture.kd * (model.state.velocity - c.velClean))⟩ := by
  simp [postureTorque?, pdForce?, LevelConfig.toLevelS, Cursor.toOTGCursor, tauPosture]

/-- `stepTaskPosture` on well-sized data, where every shape is right. -/
def stepTyped (lib : Reflexxes K) (cfg : Config K ndof) (ct : Cursor K 3) (cq : Cursor K ndof) :
    StepResult K :=
  let e := eeposOf model cfg.controlPoint
  let jx := jxOf model cfg.controlPoint
  let invA := model.dyn.invMassInertia
  let lambda := pinv svd (invLambda jx invA)
  let rt := ct.levelStep lib 1e-3 cfg.task e (jx *ᵥ model.state.velocity)
  let cfg1 := cfg.clear .TASK
  if rt.1 < 0 then ⟨.otgFailed .TASK rt.1, cfg1.toUiToCtrlS, cursors rt.2 cq⟩ else
  let fT := cfg.task.kp * (e - rt.2.posClean) +
    cfg.task.kd * (jx *ᵥ model.state.velocity - rt.2.velClean)
  let ns := nullspace (jbar invA jx lambda) jx
  let rp := cq.levelStep lib 1e-3 cfg.posture model.state.position model.state.velocity
  let cfg2 := cfg1.clear .POSTURE
  if rp.1 < 0 then ⟨.otgFailed .POSTURE rp.1, cfg2.toUiToCtrlS, cursors rt.2 rp.2⟩ else
  let fP := cfg.posture.kp * (model.state.position - rp.2.posClean) +
    cfg.posture.kd * (model.state.velocity - rp.2.velClean)
  ⟨.fellOff ⟨ndof, tauTask jx lambda fT + tauPosture ns (pinv svd (ns * invA)) fP +
    model.dyn.gravity⟩, cfg2.toUiToCtrlS, cursors rt.2 rp.2⟩

/-- On well-sized data `stepTaskPosture` trips no assertion and computes `stepTyped`. -/
theorem stepTaskPosture_toUiToCtrlS (lib : Reflexxes K) (cfg : Config K ndof) (ct : Cursor K 3)
    (cq : Cursor K ndof) :
    stepTaskPosture lib svd model cfg.toUiToCtrlS (cursors ct cq) =
      some (stepTyped svd model lib cfg ct cq) := by
  have hsan : firstFailure (sanityChecks ndof cfg.toUiToCtrlS) = none :=
    firstFailure_sanityChecks.mpr cfg.wellSized
  simp only [stepTaskPosture, hsan, Config.toUiToCtrlS_controlPoint, taskTerms?_mk,
    Option.bind_eq_bind, Option.some_bind, Config.toUiToCtrlS_task, cursors_task, otgOf,
    Cursor.levelStep?_toOTGCursor, update_cursors_task, clearGoalChanged_toUiToCtrlS, stepTyped]
  split_ifs with ht hp
  · rfl
  all_goals
    simp only [taskTorque?_mk, Option.bind_eq_bind, Option.some_bind, postureLevel?,
      postureTerms?_mk, Config.toUiToCtrlS_posture, Config.clear_task_posture, cursors_posture,
      otgOf, Cursor.levelStep?_toOTGCursor, update_cursors_posture, clearGoalChanged_toUiToCtrlS,
      hp, if_true, if_false, postureTorque?_mk, DVec.add_mk]

theorem stepTyped_typed (lib : Reflexxes K) (cfg : Config K ndof) (ct : Cursor K 3)
    (cq : Cursor K ndof) :
    ∃ (cfg' : Config K ndof) (ct' : Cursor K 3) (cq' : Cursor K ndof),
      (stepTyped svd model lib cfg ct cq).input = cfg'.toUiToCtrlS ∧
      (stepTyped svd model lib cfg ct cq).cursor = cursors ct' cq' ∧
      ∀ tau, (stepTyped svd model lib cfg ct cq).outcome = .fellOff tau → tau.rows = ndof := by
  simp only [stepTyped]
  split_ifs <;> exact ⟨_, _, _, rfl, rfl, fun _ h => by cases h <;> rfl⟩

end Typed

end Field

end WholeBodyControl.TaskPostureOTG
