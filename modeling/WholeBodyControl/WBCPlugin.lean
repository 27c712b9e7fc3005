import WholeBodyControl.TaskPosture.Law

/-! `WBCPlugin`, the first PR2 plugin: `update` calls its own `stepTaskPosture` with goals
and gains fixed in the code, and commands the torque it returns. -/
namespace WholeBodyControl.WBCPlugin
open Matrix Eigen TaskPosture

variable {K : Type} {ndof : ℕ}

/-- How `stepTaskPosture` ends: a rejected sanity check, or falling off its end with no `return`. -/
inductive Outcome (K : Type)
  | rejected (field : String) (rows : ℕ)
  | fellOff (tau : DVec K)

/-- The vectors `update` hands to `stepTaskPosture`. -/
structure Args (K : Type) where
  localControlPoint : DVec K
  taskGoal : DVec K
  taskKp : DVec K
  taskKd : DVec K
  postureGoal : DVec K
  postureKp : DVec K
  postureKd : DVec K

/-- The seven sanity checks, with the field names of their `ROS_ERROR` messages. -/
def sanityChecks (ndof : ℕ) (a : Args K) : List (String × ℕ × ℕ) :=
  [("local_control_point", a.localControlPoint.rows, 3),
   ("task_goal", a.taskGoal.rows, 3),
   ("task_kp", a.taskKp.rows, 3),
   ("task_kd", a.taskKd.rows, 3),
   ("posture_goal", a.postureGoal.rows, ndof),
   ("posture_kp", a.postureKp.rows, ndof),
   ("posture_kd", a.postureKd.rows, ndof)]

section Field
variable [LinearOrderedField K]

/-- `eepos`, `Jx = Jfull.block(0, 0, 3, 7)`, `invA` and `Lambda`, as `stepTaskPosture` has them. -/
def taskTerms? (svd : SVD K) (model : Model K ndof) (controlPoint : DVec K) :
    Option ((Fin 3 → K) × DMat K × DMat K × DMat K) := do
  let cp0 ← controlPoint.get? 0
  let cp1 ← controlPoint.get? 1
  let cp2 ← controlPoint.get? 2
  let eepos := model.dyn.computeGlobalFrame cp0 cp1 cp2
  let jx ←
    DMat.block ⟨6, ndof, model.dyn.computeJacobian (eepos 0) (eepos 1) (eepos 2)⟩ 0 0 3 7
  let invA : DMat K := ⟨ndof, ndof, model.dyn.invMassInertia⟩
  let invLambda ← (jx.mul invA).bind (·.mul jx.transpose)
  let lambda ← pseudoInverse? svd invLambda 1e-3
  some (eepos, jx, invA, lambda)

/-- `tau_task`, where `task_kd.cwise() * Jx` is formed before the product with `velocity_`. -/
def taskTorque? (model : Model K ndof) (a : Args K) (eepos : Fin 3 → K) (jx lambda : DMat K) :
    Option (DVec K) := do
  let poserror ← DVec.sub ⟨3, eepos⟩ a.taskGoal
  let kpTerm ← a.taskKp.cwiseMul poserror
  let kdTerm ← (a.taskKd.toMat.cwiseMul jx).bind (·.mulVec ⟨ndof, model.state.velocity⟩)
  let f ← kpTerm.add kdTerm
  (jx.transpose.mul lambda.neg).bind (·.mulVec f)

/-- The posture section, with `Matrix::Identity(7, 7)` in the nullspace projector. -/
def posturePart? (svd : SVD K) (model : Model K ndof) (a : Args K) (jx invA lambda : DMat K) :
    Option (DVec K) := do
  let jbar ← (invA.mul jx.transpose).bind (·.mul lambda)
  let nullspace ← (jbar.mul jx).bind (DMat.identity 7).sub
  let lambdaP ← (nullspace.mul invA).bind (pseudoInverse? svd · 1e-3)
  let pe ← DVec.sub ⟨ndof, model.state.position⟩ a.postureGoal
  let kpTerm ← a.postureKp.cwiseMul pe
  let kdTerm ← a.postureKd.cwiseMul ⟨ndof, model.state.velocity⟩
  let fp ← kpTerm.add kdTerm
  (nullspace.transpose.mul lambdaP.neg).bind (·.mulVec fp)

/-- `stepTaskPosture(...)`; Eigen's failed assertions and reads past an array's end are `none`. -/
def stepTaskPosture (svd : SVD K) (model : Model K ndof) (a : Args K) : Option (Outcome K) :=
  match firstFailure (sanityChecks ndof a) with
  | some (field, rows) => some (.rejected field rows)
  | none => do
    let (eepos, jx, invA, lambda) ← taskTerms? svd model a.localControlPoint
    let tauTask ← taskTorque? model a eepos jx lambda
    let tauPosture ← posturePart? svd model a jx invA lambda
    let tau ← (tauTask.add tauPosture).bind (·.add ⟨ndof, model.dyn.gravity⟩)
    some (.fellOff tau)

/-- The vectors `update` builds on every tick. -/
def updateArgs (mPi : K) (ndof : ℕ) : Args K :=
  ⟨.ofList [0, 0.1, 0], .ofList [0.2, 0.2, 0.2], .constant 3 20, .constant 3 1,
    .constant ndof (20 * mPi / 180), .constant ndof 20, .constant ndof 1⟩

/-- What a tick reads: the joints, the updated model, and what the missing `return` leaves. -/
structure TickInput (K : Type) (ndof : ℕ) where
  joints : JointState K ndof
  dyn : Dynamics K ndof
  fallOff : Bool

/-- `update()`: from `tau_`, the new `tau_` and the commanded efforts. -/
def update (svd : SVD K) (mPi : K) (tau : DVec K) (t : TickInput K ndof) :
    Option (DVec K × (Fin ndof → K)) := do
  let o ← stepTaskPosture svd ⟨t.dyn, t.joints⟩ (updateArgs mPi ndof)
  match o with
  | .fellOff tau =>
    if t.fallOff then (tau.read? ndof).map fun e => (tau, e) else some (tau, 0)
  | .rejected _ _ => some (tau, 0)

/-- `init` leaves `tau_` at `Vector::Zero(ndof_)`. -/
def initTau (ndof : ℕ) : DVec K := .constant ndof 0

theorem sanityChecks_updateArgs (mPi : K) :
    firstFailure (sanityChecks ndof (updateArgs mPi ndof)) = none := by
  simp [firstFailure, sanityChecks, updateArgs]

theorem taskTerms?_cols {svd : SVD K} {model : Model K ndof} {cp : DVec K} {eepos : Fin 3 → K}
    {jx invA lambda : DMat K} (h : taskTerms? svd model cp = some (eepos, jx, invA, lambda)) :
    jx.cols = 7 := by
  simp only [taskTerms?, Option.bind_eq_bind, Option.bind_eq_some] at h
  obtain ⟨_, -, _, -, _, -, jx', hb, _, -, _, -, h⟩ := h
  cases h
  unfold DMat.block at hb
  split at hb
  · cases hb; rfl
  · cases hb

theorem taskTorque?_eq_none (model : Model K ndof) (a : Args K) (eepos : Fin 3 → K)
    {jx : DMat K} (lambda : DMat K) (h : jx.cols = 7) :
    taskTorque? model a eepos jx lambda = none := by
  have hkd : a.taskKd.toMat.cwiseMul jx = none := by
    cases hk : a.taskKd.toMat.cwiseMul jx
    · rfl
    · have := DMat.cwiseMul_isSome.mp (hk ▸ rfl : (a.taskKd.toMat.cwiseMul jx).isSome)
      simp [DVec.toMat, h] at this
  simp only [taskTorque?, hkd, Option.bind_eq_bind, Option.none_bind, Option.bind_none]

theorem stepTaskPosture_updateArgs (svd : SVD K) (mPi : K) (model : Model K ndof) :
    stepTaskPosture svd model (updateArgs mPi ndof) = none := by
  simp only [stepTaskPosture, sanityChecks_updateArgs, Option.bind_eq_bind, Option.bind_eq_none]
  rintro ⟨eepos, jx, invA, lambda⟩ h
  rw [taskTorque?_eq_none _ _ _ _ (taskTerms?_cols h)]
  exact fun _ h => by cases h

/-- `update`'s call passes the sanity checks, then fails the assertion in `task_kd.cwise() * Jx`. -/
theorem stepTaskPosture_update_aborts (svd : SVD K) (mPi : K) (model : Model K ndof) :
    firstFailure (sanityChecks ndof (updateArgs mPi ndof)) = none ∧
      stepTaskPosture svd model (updateArgs mPi ndof) = none :=
  ⟨sanityChecks_updateArgs mPi, stepTaskPosture_updateArgs svd mPi model⟩

/-- So every tick of `update` aborts, from any `tau_` and whatever it measures. -/
theorem update_aborts (svd : SVD K) (mPi : K) (tau : DVec K) (t : TickInput K ndof) :
    update svd mPi tau t = none := by
  simp [update, stepTaskPosture_updateArgs]

end Field

end WholeBodyControl.WBCPlugin
