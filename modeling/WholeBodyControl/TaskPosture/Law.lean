import WholeBodyControl.Eigen.PseudoInverse

/-! The task-posture control law shared by both PR2 plugins: the `jspace::Model` it
reads, its sanity checks, and its matrix expressions once every shape is right. -/
namespace WholeBodyControl.TaskPosture
open Matrix Eigen

variable {K : Type*} {n : ℕ}

/-- The joint state `update` copies from the controlled joints into `jspace::State`. -/
structure JointState (K : Type*) (ndof : ℕ) where
  position : Fin ndof → K
  velocity : Fin ndof → K
  force : Fin ndof → K

/-- What `stepTaskPosture` reads of a `jspace::Model`: frame, Jacobian, `invA` and gravity. -/
structure Dynamics (K : Type*) (ndof : ℕ) where
  computeGlobalFrame : K → K → K → Fin 3 → K
  computeJacobian : K → K → K → Matrix (Fin 6) (Fin ndof) K
  invMassInertia : Matrix (Fin ndof) (Fin ndof) K
  gravity : Fin ndof → K

/-- A `jspace::Model` after `update`: its dynamics, and `getState()`. -/
structure Model (K : Type*) (ndof : ℕ) where
  dyn : Dynamics K ndof
  state : JointState K ndof

/-- The first field of the wrong size among the sanity checks, as `ROS_ERROR` reports it. -/
def firstFailure : List (String × ℕ × ℕ) → Option (String × ℕ)
  | [] => none
  | (field, rows, expected) :: checks =>
    if rows ≠ expected then some (field, rows) else firstFailure checks

theorem firstFailure_eq_none {checks : List (String × ℕ × ℕ)} :
    firstFailure checks = none ↔ ∀ c ∈ checks, c.2.1 = c.2.2 := by
  induction checks with
  | nil => simp [firstFailure]
  | cons c checks ih =>
    obtain ⟨field, rows, expected⟩ := c
    by_cases h : rows = expected <;> simp [firstFailure, h, ih]

/-! ### The law on well-shaped data -/

/-- `Jfull.block(0, 0, 3, ndof)`: the translational rows of the Jacobian. -/
def taskJacobian (jfull : Matrix (Fin 6) (Fin n) K) : Matrix (Fin 3) (Fin n) K :=
  fun a b => jfull (Fin.castLE (by decide) a) b

theorem block_taskJacobian (jfull : Matrix (Fin 6) (Fin n) K) :
    DMat.block ⟨6, n, jfull⟩ 0 0 3 n = some ⟨3, n, taskJacobian jfull⟩ := by
  simp [DMat.block, taskJacobian]
  rfl

section Field
variable [LinearOrderedField K]

/-- `invLambda(Jx * invA * Jx.transpose())`. -/
def invLambda (jx : Matrix (Fin 3) (Fin n) K) (invA : Matrix (Fin n) (Fin n) K) :
    Matrix (Fin 3) (Fin 3) K :=
  jx * invA * jxᵀ

/-- `pseudoInverse(m, 1e-3, ·)` on a square matrix, through the given SVD routine. -/
def pinv {k : ℕ} (svd : SVD K) (m : Matrix (Fin k) (Fin k) K) : Matrix (Fin k) (Fin k) K :=
  pseudoInverse (svd ⟨k, k, m⟩).matrixU (svd ⟨k, k, m⟩).singularValues 1e-3

/-- `tau_task(Jx.transpose() * (-Lambda) * f)`. -/
def tauTask (jx : Matrix (Fin 3) (Fin n) K) (lambda : Matrix (Fin 3) (Fin 3) K) (f : Fin 3 → K) :
    Fin n → K :=
  (jxᵀ * -lambda) *ᵥ f

/-- `Jbar(invA * Jx.transpose() * Lambda)`, the dynamically consistent inverse of `Jx`. -/
def jbar (invA : Matrix (Fin n) (Fin n) K) (jx : Matrix (Fin 3) (Fin n) K)
    (lambda : Matrix (Fin 3) (Fin 3) K) : Matrix (Fin n) (Fin 3) K :=
  invA * jxᵀ * lambda

/-- `nullspace(Identity(ndof, ndof) - Jbar * Jx)`. -/
def nullspace (jbar : Matrix (Fin n) (Fin 3) K) (jx : Matrix (Fin 3) (Fin n) K) :
    Matrix (Fin n) (Fin n) K :=
  1 - jbar * jx

/-- `tau_posture(nullspace.transpose() * (-Lambda_p) * f)`. -/
def tauPosture (nullspace lambdaP : Matrix (Fin n) (Fin n) K) (f : Fin n → K) : Fin n → K :=
  (nullspaceᵀ * -lambdaP) *ᵥ f

@[simp] theorem pseudoInverse?_pinv (svd : SVD K) {k : ℕ} (m : Matrix (Fin k) (Fin k) K) :
    pseudoInverse? svd ⟨k, k, m⟩ 1e-3 = some ⟨k, k, pinv svd m⟩ :=
  pseudoInverse?_square svd m _

/-! ### Why the posture torque stays out of the task space -/

variable {jx : Matrix (Fin 3) (Fin n) K} {invA : Matrix (Fin n) (Fin n) K}
  {lambda : Matrix (Fin 3) (Fin 3) K}

theorem mul_jbar : jx * jbar invA jx lambda = invLambda jx invA * lambda := by
  simp only [jbar, invLambda, Matrix.mul_assoc]

theorem nullspace_mul_jbar (h : lambda * invLambda jx invA * lambda = lambda) :
    nullspace (jbar invA jx lambda) jx * jbar invA jx lambda = 0 := by
  have hjj : jbar invA jx lambda * jx * jbar invA jx lambda = jbar invA jx lambda := by
    rw [Matrix.mul_assoc, mul_jbar]
    simp only [jbar, Matrix.mul_assoc] at h ⊢
    rw [h]
  rw [nullspace, Matrix.sub_mul, Matrix.one_mul, hjj, sub_self]

theorem jbar_transpose_tauPosture (h : lambda * invLambda jx invA * lambda = lambda)
    (lambdaP : Matrix (Fin n) (Fin n) K) (f : Fin n → K) :
    (jbar invA jx lambda)ᵀ *ᵥ tauPosture (nullspace (jbar invA jx lambda) jx) lambdaP f = 0 := by
  rw [tauPosture, mulVec_mulVec, ← Matrix.mul_assoc, ← Matrix.transpose_mul,
    nullspace_mul_jbar h]
  simp

theorem mul_nullspace_transpose (hA : invAᵀ = invA) (hl : lambdaᵀ = lambda)
    (h : invLambda jx invA * lambda = 1) :
    jx * invA * (nullspace (jbar invA jx lambda) jx)ᵀ = 0 := by
  have hj : (jbar invA jx lambda)ᵀ = lambda * jx * invA := by
    simp only [jbar, Matrix.transpose_mul, Matrix.transpose_transpose, hA, hl, Matrix.mul_assoc]
  rw [nullspace, Matrix.transpose_sub, Matrix.transpose_one, Matrix.transpose_mul, hj,
    Matrix.mul_sub, Matrix.mul_one]
  calc jx * invA - jx * invA * (jxᵀ * (lambda * jx * invA))
      = jx * invA - invLambda jx invA * lambda * (jx * invA) := by
        simp only [invLambda, Matrix.mul_assoc]
    _ = 0 := by rw [h, Matrix.one_mul, sub_self]

theorem mul_tauTask (h : invLambda jx invA * lambda = 1) (f : Fin 3 → K) :
    (jx * invA) *ᵥ tauTask jx lambda f = -f := by
  rw [tauTask, mulVec_mulVec, Matrix.mul_neg, Matrix.mul_neg, ← Matrix.mul_assoc, neg_mulVec]
  change -((invLambda jx invA * lambda) *ᵥ f) = -f
  rw [h, one_mulVec]

theorem mul_tauPosture (hA : invAᵀ = invA) (hl : lambdaᵀ = lambda)
    (h : invLambda jx invA * lambda = 1) (lambdaP : Matrix (Fin n) (Fin n) K) (f : Fin n → K) :
    (jx * invA) *ᵥ tauPosture (nullspace (jbar invA jx lambda) jx) lambdaP f = 0 := by
  rw [tauPosture, mulVec_mulVec, ← Matrix.mul_assoc, mul_nullspace_transpose hA hl h]
  simp

end Field

theorem invLambda_posSemidef (jx : Matrix (Fin 3) (Fin n) ℝ) {invA : Matrix (Fin n) (Fin n) ℝ}
    (hA : invA.PosSemidef) : (invLambda jx invA).PosSemidef := by
  simpa [invLambda, conjTranspose_eq_transpose_of_trivial] using hA.mul_mul_conjTranspose_same jx

theorem transpose_eq_of_posSemidef {a : Matrix (Fin n) (Fin n) ℝ} (ha : a.PosSemidef) :
    aᵀ = a := by
  simpa [conjTranspose_eq_transpose_of_trivial] using ha.1.eq

end WholeBodyControl.TaskPosture
