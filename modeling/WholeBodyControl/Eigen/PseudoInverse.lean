import WholeBodyControl.Eigen.Dynamic
import Mathlib.LinearAlgebra.Matrix.PosDef
import Mathlib.Data.Real.StarOrdered

/-! `pseudoInverse` of the task-posture plugins: `U * S⁺ * Uᵀ` from the SVD of its
argument, and why this is a genuine pseudo-inverse for symmetric positive semi-definite
input. -/
namespace WholeBodyControl.Eigen
open Matrix

variable {K : Type*} [LinearOrderedField K] {m n : ℕ}

/-- What `Eigen::SVD` computes for an `m × n` matrix: `matrixU()` and `singularValues()`. -/
structure SVDOut (K : Type*) (m n : ℕ) where
  matrixU : Matrix (Fin m) (Fin n) K
  singularValues : Fin n → K

/-- The SVD routine of the Eigen library, taken as given. -/
def SVD (K : Type*) := (a : DMat K) → SVDOut K a.rows a.cols

/-- The diagonal of `invS`: `1 / sigma` above the threshold, `0` otherwise. -/
def invSingular (sv : Fin n → K) (sigmaThreshold : K) (i : Fin n) : K :=
  if sv i > sigmaThreshold then 1 / sv i else 0

/-- `svd.matrixU() * invS * svd.matrixU().transpose()`. -/
def pseudoInverse (u : Matrix (Fin m) (Fin n) K) (sv : Fin n → K) (sigmaThreshold : K) :
    Matrix (Fin m) (Fin m) K :=
  u * diagonal (invSingular sv sigmaThreshold) * uᵀ

/-- `pseudoInverse(matrix, sigmaThreshold, invMatrix)`; Eigen 2's SVD asserts `rows ≥ cols`. -/
def pseudoInverse? (svd : SVD K) (matrix : DMat K) (sigmaThreshold : K) : Option (DMat K) :=
  if matrix.cols ≤ matrix.rows then
    let s := svd matrix
    let invS : DMat K :=
      ⟨matrix.cols, matrix.cols, diagonal (invSingular s.singularValues sigmaThreshold)⟩
    (DMat.mul ⟨_, _, s.matrixU⟩ invS).bind (DMat.mul · (DMat.transpose ⟨_, _, s.matrixU⟩))
  else none

theorem pseudoInverse?_eq (svd : SVD K) (a : DMat K) (t : K) (h : a.cols ≤ a.rows) :
    pseudoInverse? svd a t =
      some ⟨a.rows, a.rows, pseudoInverse (svd a).matrixU (svd a).singularValues t⟩ := by
  simp [pseudoInverse?, h, pseudoInverse]

@[simp] theorem pseudoInverse?_square (svd : SVD K) (a : Matrix (Fin n) (Fin n) K) (t : K) :
    pseudoInverse? svd ⟨n, n, a⟩ t =
      some ⟨n, n,
        pseudoInverse (svd ⟨n, n, a⟩).matrixU (svd ⟨n, n, a⟩).singularValues t⟩ :=
  pseudoInverse?_eq svd _ t le_rfl

/-- The contract of `Eigen::SVD` on a square matrix, in exact arithmetic. -/
structure IsSVD (a u : Matrix (Fin n) (Fin n) K) (sv : Fin n → K) : Prop where
  orthogonal_u : uᵀ * u = 1
  exists_v : ∃ v : Matrix (Fin n) (Fin n) K, vᵀ * v = 1 ∧ a = u * diagonal sv * vᵀ
  nonneg : ∀ i, 0 ≤ sv i

section Conjugation
variable {u : Matrix (Fin n) (Fin n) K}

theorem conj_mul_conj (hu : uᵀ * u = 1) (a b : Fin n → K) :
    u * diagonal a * uᵀ * (u * diagonal b * uᵀ) = u * diagonal (a * b) * uᵀ := by
  calc u * diagonal a * uᵀ * (u * diagonal b * uᵀ)
      = u * diagonal a * (uᵀ * u) * diagonal b * uᵀ := by simp only [Matrix.mul_assoc]
    _ = u * diagonal (a * b) * uᵀ := by
      rw [hu, Matrix.mul_one, Matrix.mul_assoc u, diagonal_mul_diagonal]; rfl

theorem conj_transpose (a : Fin n → K) : (u * diagonal a * uᵀ)ᵀ = u * diagonal a * uᵀ := by
  simp [Matrix.transpose_mul, Matrix.mul_assoc]

end Conjugation

section Real
variable {a u : Matrix (Fin n) (Fin n) ℝ} {sv : Fin n → ℝ}

/-- On symmetric positive semi-definite input both sides of the SVD share `U`. -/
theorem eq_conj_of_isSVD (ha : a.PosSemidef) (hs : IsSVD a u sv) :
    a = u * diagonal sv * uᵀ := by
  obtain ⟨v, hv, rfl⟩ := hs.exists_v
  have hn : (u * diagonal sv * uᵀ).PosSemidef := by
    simpa [conjTranspose_eq_transpose_of_trivial] using
      (PosSemidef.diagonal (fun i => hs.nonneg i)).mul_mul_conjTranspose_same u
  have hsym : (u * diagonal sv * vᵀ)ᵀ = u * diagonal sv * vᵀ := by
    simpa [conjTranspose_eq_transpose_of_trivial] using ha.1.eq
  refine ha.eq_of_sq_eq_sq hn ?_
  calc (u * diagonal sv * vᵀ) ^ 2 = u * diagonal sv * vᵀ * (u * diagonal sv * vᵀ)ᵀ := by
        rw [hsym, sq]
    _ = u * diagonal sv * (vᵀ * v) * diagonal sv * uᵀ := by
        simp only [Matrix.transpose_mul, Matrix.transpose_transpose, diagonal_transpose,
          Matrix.mul_assoc]
    _ = (u * diagonal sv * uᵀ) ^ 2 := by
        rw [hv, Matrix.mul_one, sq, conj_mul_conj hs.orthogonal_u, Matrix.mul_assoc u,
          diagonal_mul_diagonal]; rfl

theorem invSingular_mul_mul {t : ℝ} (ht : 0 < t) :
    invSingular sv t * sv * invSingular sv t = invSingular sv t := by
  funext i
  simp only [Pi.mul_apply, invSingular, gt_iff_lt]
  split_ifs with h
  · field_simp [(ht.trans h).ne']
  · simp

theorem mul_invSingular {t : ℝ} (ht : 0 < t) :
    sv * invSingular sv t = fun i => if t < sv i then 1 else 0 := by
  funext i
  simp only [Pi.mul_apply, invSingular, gt_iff_lt]
  split_ifs with h
  · field_simp [(ht.trans h).ne']
  · simp

theorem conj_mulVec_column (hu : uᵀ * u = 1) (p : Fin n → ℝ) (i : Fin n) :
    (u * diagonal p * uᵀ) *ᵥ (fun k => u k i) = p i • fun k => u k i := by
  have hcol : (fun k => u k i) = u *ᵥ Pi.single i 1 := by simp
  rw [hcol, mulVec_mulVec, Matrix.mul_assoc, hu, Matrix.mul_one]
  ext k
  simp [mulVec_single, mul_diagonal, mul_comm]

section Genuine
variable {s0 : ℝ} (ha : a.PosSemidef) (hs : IsSVD a u sv) (hs0 : 0 < s0)
include ha hs hs0

theorem mul_pseudoInverse :
    a * pseudoInverse u sv s0 = u * diagonal (fun i => if s0 < sv i then 1 else 0) * uᵀ := by
  rw [eq_conj_of_isSVD ha hs, pseudoInverse, conj_mul_conj hs.orthogonal_u, mul_invSingular hs0]

/-- `l * a * l = l`: `pseudoInverse` is a generalised inverse. -/
theorem pseudoInverse_mul_mul :
    pseudoInverse u sv s0 * a * pseudoInverse u sv s0 = pseudoInverse u sv s0 := by
  rw [eq_conj_of_isSVD ha hs, pseudoInverse, conj_mul_conj hs.orthogonal_u,
    conj_mul_conj hs.orthogonal_u, invSingular_mul_mul hs0]

theorem mul_pseudoInverse_eq_one (hall : ∀ i, s0 < sv i) : a * pseudoInverse u sv s0 = 1 := by
  rw [mul_pseudoInverse ha hs hs0]
  simp only [hall, if_true, diagonal_one, Matrix.mul_one]
  exact mul_eq_one_comm.mp hs.orthogonal_u

end Genuine

/-- On symmetric positive semi-definite input `pseudoInverse` is a genuine pseudo-inverse. -/
theorem pseudoInverse_genuine (svd : SVD ℝ) {s0 : ℝ} (ha : a.PosSemidef)
    (hsvd : svd ⟨n, n, a⟩ = ⟨u, sv⟩) (hs : IsSVD a u sv) (hs0 : 0 < s0) :
    ∃ l, pseudoInverse? svd ⟨n, n, a⟩ s0 = some ⟨n, n, l⟩ ∧ lᵀ = l ∧
      l * a * l = l ∧
      a * l = u * diagonal (fun i => if s0 < sv i then 1 else 0) * uᵀ ∧
      (∀ i, (a * l) *ᵥ (fun k => u k i) = if s0 < sv i then (fun k => u k i) else 0) ∧
      ((∀ i, s0 < sv i) → l = a⁻¹) := by
  refine ⟨pseudoInverse u sv s0, by simp [hsvd], conj_transpose _,
    pseudoInverse_mul_mul ha hs hs0, mul_pseudoInverse ha hs hs0, fun i => ?_,
    fun hall => (inv_eq_right_inv (mul_pseudoInverse_eq_one ha hs hs0 hall)).symm⟩
  rw [mul_pseudoInverse ha hs hs0, conj_mulVec_column hs.orthogonal_u]
  split_ifs <;> simp

def svdUnit : SVD ℝ :=
  fun _ => ⟨Matrix.of fun i j => if (i : ℕ) = j then 1 else 0, fun _ => 1⟩

def svdZero : SVD ℝ := fun _ => ⟨Matrix.of fun i j => if (i : ℕ) = j then 1 else 0, 0⟩

def svdSwap : SVD ℝ :=
  fun _ => ⟨Matrix.of fun i j => if (i : ℕ) + j = 1 then 1 else 0,
    fun j => if (j : ℕ) = 0 then 4 else 1e-4⟩

theorem svdSwap_two (a : Matrix (Fin 2) (Fin 2) ℝ) :
    svdSwap ⟨2, 2, a⟩ = ⟨!![0, 1; 1, 0], ![4, 1e-4]⟩ := by
  simp only [svdSwap, SVDOut.mk.injEq]
  refine ⟨?_, ?_⟩
  · ext i j
    fin_cases i <;> fin_cases j <;> rfl
  · funext j
    fin_cases j <;> rfl

theorem pseudoInverse_genuine_swap :
    let a : Matrix (Fin 2) (Fin 2) ℝ := diagonal ![1e-4, 4]
    let u : Matrix (Fin 2) (Fin 2) ℝ := !![0, 1; 1, 0]
    let sv : Fin 2 → ℝ := ![4, 1e-4]
    a.PosSemidef ∧ svdSwap ⟨2, 2, a⟩ = ⟨u, sv⟩ ∧ IsSVD a u sv ∧ (0 : ℝ) < 1e-3 ∧
      ∃ l, pseudoInverse? svdSwap ⟨2, 2, a⟩ 1e-3 = some ⟨2, 2, l⟩ ∧ lᵀ = l ∧ l * a * l = l ∧
        a * l = u * diagonal (fun i => if (1e-3 : ℝ) < sv i then 1 else 0) * uᵀ ∧
        (∀ i, (a * l) *ᵥ (fun k => u k i) = if (1e-3 : ℝ) < sv i then (fun k => u k i) else 0) ∧
        ((∀ i, (1e-3 : ℝ) < sv i) → l = a⁻¹) := by
  intro a u sv
  have ha : a.PosSemidef := PosSemidef.diagonal fun i => by fin_cases i <;> norm_num
  have hs : IsSVD a u sv := by
    refine ⟨?_, ⟨u, ?_, ?_⟩, fun i => by fin_cases i <;> norm_num [sv]⟩
    all_goals ext i j; fin_cases i <;> fin_cases j <;>
      simp only [a, u, sv, Matrix.mul_apply, Fin.sum_univ_two, Matrix.transpose_apply,
        Matrix.of_apply, Matrix.cons_val', Matrix.cons_val_zero, Matrix.cons_val_one,
        Matrix.head_cons, Matrix.empty_val', Matrix.cons_val_fin_one, Matrix.one_apply,
        Matrix.diagonal_apply] <;> norm_num
  exact ⟨ha, svdSwap_two a, hs, by norm_num,
    pseudoInverse_genuine svdSwap ha (svdSwap_two a) hs (by norm_num)⟩

/-- `U * S⁺ * Uᵀ` is positive semi-definite whatever `U` and the singular values are. -/
theorem pseudoInverse_posSemidef {m k : ℕ} (matrixU : Matrix (Fin m) (Fin k) ℝ)
    (singularValues : Fin k → ℝ) {t : ℝ} (ht : 0 ≤ t) :
    (pseudoInverse matrixU singularValues t).PosSemidef := by
  have hS : (diagonal (invSingular singularValues t)).PosSemidef := by
    refine PosSemidef.diagonal fun i => ?_
    simp only [Pi.zero_apply, invSingular, gt_iff_lt]
    split_ifs with h
    · exact one_div_nonneg.mpr (ht.trans h.le)
    · exact le_rfl
  simpa only [pseudoInverse, conjTranspose_eq_transpose_of_trivial] using
    hS.mul_mul_conjTranspose_same matrixU

/-- Every result of `pseudoInverse` is square and positive semi-definite, whatever the SVD. -/
theorem pseudoInverse?_posSemidef (svd : SVD ℝ) (matrix : DMat ℝ) {t : ℝ} (ht : 0 ≤ t)
    {l : DMat ℝ} (h : pseudoInverse? svd matrix t = some l) :
    ∃ p : Matrix (Fin matrix.rows) (Fin matrix.rows) ℝ, l = ⟨_, _, p⟩ ∧ p.PosSemidef := by
  by_cases hc : matrix.cols ≤ matrix.rows
  · rw [pseudoInverse?_eq svd matrix t hc] at h
    exact ⟨_, (Option.some.inj h).symm, pseudoInverse_posSemidef _ _ ht⟩
  · simp [pseudoInverse?, hc] at h

theorem pseudoInverse?_posSemidef_swap :
    let a : Matrix (Fin 2) (Fin 2) ℝ := diagonal ![1e-4, 4]
    (0 : ℝ) ≤ 1e-3 ∧
      pseudoInverse? svdSwap ⟨2, 2, a⟩ 1e-3 =
        some ⟨2, 2, pseudoInverse !![0, 1; 1, 0] ![4, 1e-4] 1e-3⟩ ∧
      ∃ p : Matrix (Fin 2) (Fin 2) ℝ,
        (⟨2, 2, pseudoInverse !![0, 1; 1, 0] ![4, 1e-4] 1e-3⟩ : DMat ℝ) = ⟨2, 2, p⟩ ∧
          p.PosSemidef := by
  intro a
  have h : pseudoInverse? svdSwap ⟨2, 2, a⟩ (1e-3 : ℝ) =
      some ⟨2, 2, pseudoInverse !![0, 1; 1, 0] ![4, 1e-4] 1e-3⟩ := by
    rw [pseudoInverse?_square, svdSwap_two]
  exact ⟨by norm_num, h, pseudoInverse?_posSemidef svdSwap _ (by norm_num) h⟩

end Real

end WholeBodyControl.Eigen
