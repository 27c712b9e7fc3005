import Mathlib.Data.Matrix.Mul

/-! Dynamically sized Eigen matrices and vectors. Shapes are data; an operation whose
operands do not fit is `none`, the failed `ei_assert` of Eigen. -/
namespace WholeBodyControl.Eigen
open Matrix

/-- `jspace::Matrix`, a dynamically sized `Eigen::MatrixXd`. -/
structure DMat (K : Type*) where
  rows : ℕ
  cols : ℕ
  coeff : Matrix (Fin rows) (Fin cols) K

/-- `jspace::Vector`, a dynamically sized `Eigen::VectorXd`: one column, by its type. -/
structure DVec (K : Type*) where
  rows : ℕ
  coeff : Fin rows → K

variable {K : Type*}

namespace DVec

/-- `jspace::convert` from a `std::vector<double>`: the vector takes the list's length. -/
def ofList (l : List K) : DVec K := ⟨l.length, l.get⟩

/-- `jspace::convert` into a `std::vector<double>`. -/
def toList (v : DVec K) : List K := List.ofFn v.coeff

/-- `Vector::Constant(n, c)`, as `c * Vector::Ones(n)` builds it. -/
def constant (n : ℕ) (c : K) : DVec K := ⟨n, fun _ => c⟩

def toMat (v : DVec K) : DMat K := ⟨v.rows, 1, fun i _ => v.coeff i⟩

/-- `v[i]`: reading past the end is undefined behaviour, here `none`. -/
def get? (v : DVec K) (i : ℕ) : Option K :=
  if h : i < v.rows then some (v.coeff ⟨i, h⟩) else none

/-- The first `d` entries through `v.data()`; past the end, undefined behaviour: `none`. -/
def read? (v : DVec K) (d : ℕ) : Option (Fin d → K) :=
  if h : d ≤ v.rows then some (fun i => v.coeff (Fin.castLE h i)) else none

/-- `d` entries written through `v.data()`, as a raw `double *`. -/
def write? (v : DVec K) (d : ℕ) (x : Fin d → K) : Option (DVec K) :=
  if d ≤ v.rows then
    some ⟨v.rows, fun i => if hi : (i : ℕ) < d then x ⟨i, hi⟩ else v.coeff i⟩
  else none

@[simp] theorem read?_mk {d : ℕ} (v : Fin d → K) : read? ⟨d, v⟩ d = some v := by
  simp [read?]

@[simp] theorem write?_mk {d : ℕ} (v x : Fin d → K) :
    write? ⟨d, v⟩ d x = some ⟨d, x⟩ := by
  simp [write?]

theorem read?_isSome {v : DVec K} {d : ℕ} : (read? v d).isSome ↔ d ≤ v.rows := by
  unfold read?; split <;> simp [*]

theorem write?_rows {v v' : DVec K} {d : ℕ} {x : Fin d → K} (h : write? v d x = some v') :
    d ≤ v.rows ∧ v'.rows = v.rows := by
  unfold write? at h
  split at h
  · cases h; exact ⟨‹_›, rfl⟩
  · cases h

section Arith
variable [Ring K]

/-- `a + b`, asserting equal sizes. -/
def add (a b : DVec K) : Option (DVec K) :=
  if h : a.rows = b.rows then some ⟨a.rows, fun i => a.coeff i + b.coeff (Fin.cast h i)⟩
  else none

/-- `a - b`, asserting equal sizes. -/
def sub (a b : DVec K) : Option (DVec K) :=
  if h : a.rows = b.rows then some ⟨a.rows, fun i => a.coeff i - b.coeff (Fin.cast h i)⟩
  else none

/-- `a.cwise() * b`, asserting equal sizes. -/
def cwiseMul (a b : DVec K) : Option (DVec K) :=
  if h : a.rows = b.rows then some ⟨a.rows, fun i => a.coeff i * b.coeff (Fin.cast h i)⟩
  else none

@[simp] theorem add_mk {n : ℕ} (a b : Fin n → K) :
    add ⟨n, a⟩ ⟨n, b⟩ = some ⟨n, a + b⟩ := by simp [add]; rfl

@[simp] theorem sub_mk {n : ℕ} (a b : Fin n → K) :
    sub ⟨n, a⟩ ⟨n, b⟩ = some ⟨n, a - b⟩ := by simp [sub]; rfl

@[simp] theorem cwiseMul_mk {n : ℕ} (a b : Fin n → K) :
    cwiseMul ⟨n, a⟩ ⟨n, b⟩ = some ⟨n, a * b⟩ := by simp [cwiseMul]; rfl

theorem add_isSome {a b : DVec K} : (add a b).isSome ↔ a.rows = b.rows := by
  unfold add; split <;> simp [*]

theorem sub_isSome {a b : DVec K} : (sub a b).isSome ↔ a.rows = b.rows := by
  unfold sub; split <;> simp [*]

theorem cwiseMul_isSome {a b : DVec K} : (cwiseMul a b).isSome ↔ a.rows = b.rows := by
  unfold cwiseMul; split <;> simp [*]

end Arith

@[simp] theorem ofList_rows (l : List K) : (ofList l).rows = l.length := rfl

@[simp] theorem toList_ofList (l : List K) : (ofList l).toList = l := List.ofFn_get l

@[simp] theorem constant_rows (n : ℕ) (c : K) : (constant n c).rows = n := rfl

theorem exists_eq_mk {v : DVec K} {n : ℕ} (h : v.rows = n) : ∃ x, v = ⟨n, x⟩ := by
  obtain ⟨m, x⟩ := v
  dsimp only at h
  subst h
  exact ⟨x, rfl⟩

@[simp] theorem toMat_mk {n : ℕ} (v : Fin n → K) :
    toMat ⟨n, v⟩ = ⟨n, 1, fun i _ => v i⟩ := rfl

end DVec

namespace DMat

/-- `m.transpose()`. -/
def transpose (m : DMat K) : DMat K := ⟨m.cols, m.rows, m.coeffᵀ⟩

/-- `Matrix::Identity(n, n)`. -/
def identity [Zero K] [One K] (n : ℕ) : DMat K := ⟨n, n, 1⟩

/-- `-m`. -/
def neg [Neg K] (m : DMat K) : DMat K := ⟨m.rows, m.cols, -m.coeff⟩

/-- `m.block(i, j, p, q)`, asserting that the block lies inside `m`. -/
def block (m : DMat K) (i j p q : ℕ) : Option (DMat K) :=
  if h : i + p ≤ m.rows ∧ j + q ≤ m.cols then
    some ⟨p, q, fun a b => m.coeff ⟨i + a, by omega⟩ ⟨j + b, by omega⟩⟩
  else none

/-- A matrix expression assigned to a `jspace::Vector`: it must have one column. -/
def toVec? (m : DMat K) : Option (DVec K) :=
  if h : m.cols = 1 then some ⟨m.rows, fun i => m.coeff i ⟨0, by omega⟩⟩ else none

@[simp] theorem transpose_mk {m n : ℕ} (a : Matrix (Fin m) (Fin n) K) :
    transpose ⟨m, n, a⟩ = ⟨n, m, aᵀ⟩ := rfl

section Arith
variable [Ring K]

/-- `a * b`, asserting that the inner dimensions agree. -/
def mul (a b : DMat K) : Option (DMat K) :=
  if h : a.cols = b.rows then some ⟨a.rows, b.cols, a.coeff * b.coeff.submatrix (Fin.cast h) id⟩
  else none

/-- `a * v` for a vector `v`, asserting that the inner dimensions agree. -/
def mulVec (a : DMat K) (v : DVec K) : Option (DVec K) :=
  if h : a.cols = v.rows then some ⟨a.rows, a.coeff *ᵥ (v.coeff ∘ Fin.cast h)⟩ else none

/-- `a - b`, asserting equal shapes. -/
def sub (a b : DMat K) : Option (DMat K) :=
  if h : a.rows = b.rows ∧ a.cols = b.cols then
    some ⟨a.rows, a.cols, fun i j => a.coeff i j - b.coeff (Fin.cast h.1 i) (Fin.cast h.2 j)⟩
  else none

/-- `a.cwise() * b` on matrix expressions, asserting equal shapes. -/
def cwiseMul (a b : DMat K) : Option (DMat K) :=
  if h : a.rows = b.rows ∧ a.cols = b.cols then
    some ⟨a.rows, a.cols, fun i j => a.coeff i j * b.coeff (Fin.cast h.1 i) (Fin.cast h.2 j)⟩
  else none

@[simp] theorem mul_mk {m n p : ℕ} (a : Matrix (Fin m) (Fin n) K) (b : Matrix (Fin n) (Fin p) K) :
    mul ⟨m, n, a⟩ ⟨n, p, b⟩ = some ⟨m, p, a * b⟩ := by simp [mul]

@[simp] theorem mulVec_mk {m n : ℕ} (a : Matrix (Fin m) (Fin n) K) (v : Fin n → K) :
    mulVec ⟨m, n, a⟩ ⟨n, v⟩ = some ⟨m, a *ᵥ v⟩ := by simp [mulVec]

@[simp] theorem sub_mk {m n : ℕ} (a b : Matrix (Fin m) (Fin n) K) :
    sub ⟨m, n, a⟩ ⟨m, n, b⟩ = some ⟨m, n, a - b⟩ := by simp [sub]; rfl

@[simp] theorem neg_mk {m n : ℕ} (a : Matrix (Fin m) (Fin n) K) :
    neg ⟨m, n, a⟩ = ⟨m, n, -a⟩ := rfl

@[simp] theorem identity_eq (n : ℕ) : (identity n : DMat K) = ⟨n, n, 1⟩ := rfl

theorem mul_isSome {a b : DMat K} : (mul a b).isSome ↔ a.cols = b.rows := by
  unfold mul; split <;> simp [*]

theorem mulVec_isSome {a : DMat K} {v : DVec K} : (mulVec a v).isSome ↔ a.cols = v.rows := by
  unfold mulVec; split <;> simp [*]

theorem cwiseMul_isSome {a b : DMat K} :
    (cwiseMul a b).isSome ↔ a.rows = b.rows ∧ a.cols = b.cols := by
  unfold cwiseMul; split <;> simp [*]

end Arith

theorem block_isSome {m : DMat K} {i j p q : ℕ} :
    (block m i j p q).isSome ↔ i + p ≤ m.rows ∧ j + q ≤ m.cols := by
  unfold block; split <;> simp [*]

end DMat

end WholeBodyControl.Eigen
