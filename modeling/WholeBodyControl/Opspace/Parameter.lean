import Mathlib.Data.List.Nodup
import Mathlib.Data.String.Basic
import WholeBodyControl.Eigen.Dynamic

/-! `opspace::ParameterReflection`: the `std::map` from names to `Parameter` objects that
`declareParameter` fills, what `lookupParameter`, the destructor, `dump` and `ParameterLog`
read from it, and how `set` and `ParameterLog::update` reach the storage behind it. -/
namespace WholeBodyControl.Opspace
open Eigen

/-- `parameter_type_t`. -/
inductive ParameterType
  | VOID
  | INTEGER
  | STRING
  | REAL
  | VECTOR
  | MATRIX
  deriving DecidableEq, Repr

/-- The storage a parameter reflects: the pointer an overload of `declareParameter` takes. -/
inductive Storage
  | integer (addr : ℕ)
  | string (addr : ℕ)
  | real (addr : ℕ)
  | vector (addr : ℕ)
  | matrix (addr : ℕ)
  deriving DecidableEq, Repr

/-- The type each overload's `Parameter` subclass passes to the base constructor. -/
def Storage.type : Storage → ParameterType
  | .integer _ => .INTEGER
  | .string _ => .STRING
  | .real _ => .REAL
  | .vector _ => .VECTOR
  | .matrix _ => .MATRIX

/-- A `Parameter` object; `id` is the number of objects allocated before it. -/
structure Parameter where
  id : ℕ
  name : String
  type : ParameterType
  flags : ℕ
  storage : Storage
  deriving DecidableEq, Repr

/-- A value of one of the types `set` is overloaded on. -/
inductive Value (K : Type)
  | integer (i : ℤ)
  | string (s : String)
  | real (x : K)
  | vector (v : DVec K)
  | matrix (m : DMat K)

/-- The type of the `set` overload a value selects. -/
def Value.type {K : Type} : Value K → ParameterType
  | .integer _ => .INTEGER
  | .string _ => .STRING
  | .real _ => .REAL
  | .vector _ => .VECTOR
  | .matrix _ => .MATRIX

/-- The cells the storage pointers of parameters point to, one per address and type. -/
structure Memory (K : Type) where
  integer : ℕ → ℤ
  string : ℕ → String
  real : ℕ → K
  vector : ℕ → DVec K
  matrix : ℕ → DMat K

namespace Memory
variable {K : Type}

/-- `*integer_`, `*string_`, `*real_`, `*vector_` or `*matrix_`. -/
def read (mem : Memory K) : Storage → Value K
  | .integer a => .integer (mem.integer a)
  | .string a => .string (mem.string a)
  | .real a => .real (mem.real a)
  | .vector a => .vector (mem.vector a)
  | .matrix a => .matrix (mem.matrix a)

/-- Assignment through a storage pointer; `none` for a value of another type. -/
def write? (mem : Memory K) : Storage → Value K → Option (Memory K)
  | .integer a, .integer i => some { mem with integer := Function.update mem.integer a i }
  | .string a, .string x => some { mem with string := Function.update mem.string a x }
  | .real a, .real x => some { mem with real := Function.update mem.real a x }
  | .vector a, .vector v => some { mem with vector := Function.update mem.vector a v }
  | .matrix a, .matrix m => some { mem with matrix := Function.update mem.matrix a m }
  | _, _ => none

end Memory

/-- `jspace::Status`. -/
structure Status where
  ok : Bool := true
  errstr : String := ""

/-- `Parameter::set`: a value of the parameter's type is assigned if `checker_->check` passes. -/
def Parameter.set {K : Type} (check : Memory K → Storage → Value K → Status) (p : Parameter)
    (v : Value K) (mem : Memory K) : Status × Memory K :=
  match mem.write? p.storage v with
  | none => ({ ok := false, errstr := "type mismatch" }, mem)
  | some mem' =>
    let st := check mem p.storage v
    if st.ok then (st, mem') else (st, mem)

/-- `ParameterReflection`: `parameter_lookup_`, and the number of objects allocated. -/
structure ParameterReflection where
  parameterLookup : List (String × Parameter)
  allocated : ℕ

/-- `std::map::insert`: a binding for a name already present is dropped. -/
def mapInsert (m : List (String × Parameter)) (k : String) (v : Parameter) :
    List (String × Parameter) :=
  if m.any (·.1 == k) then m else m ++ [(k, v)]

/-- `std::map::find`. -/
def mapFind (m : List (String × Parameter)) (k : String) : Option Parameter :=
  (m.find? (·.1 == k)).map Prod.snd

namespace ParameterReflection

def empty : ParameterReflection := ⟨[], 0⟩

/-- `declareParameter(name, storage, flags)`: the new object is returned even if not inserted. -/
def declareParameter (r : ParameterReflection) (name : String) (storage : Storage)
    (flags : ℕ) : ParameterReflection × Parameter :=
  let entry : Parameter := ⟨r.allocated, name, storage.type, flags, storage⟩
  (⟨mapInsert r.parameterLookup name entry, r.allocated + 1⟩, entry)

/-- `lookupParameter(name)`. -/
def lookupParameter (r : ParameterReflection) (name : String) : Option Parameter :=
  mapFind r.parameterLookup name

/-- `lookupParameter(name, type)`: the entry for the name, if it has that type. -/
def lookupParameterOfType (r : ParameterReflection) (name : String) (type : ParameterType) :
    Option Parameter :=
  match r.lookupParameter name with
  | some p => if type = p.type then some p else none
  | none => none

/-- The objects the map holds, in its order: those the destructor deletes and `dump` prints. -/
def held (r : ParameterReflection) : List Parameter :=
  (r.parameterLookup.mergeSort fun a b => decide (a.1 ≤ b.1)).map Prod.snd

/-- A sequence of `declareParameter` calls, with the objects they return. -/
def declareAll : ParameterReflection → List (String × Storage × ℕ) →
    ParameterReflection × List Parameter
  | r, [] => (r, [])
  | r, (name, storage, flags) :: ds =>
    let d := r.declareParameter name storage flags
    let rest := declareAll d.1 ds
    (rest.1, d.2 :: rest.2)

end ParameterReflection

/-- `ParameterLog::log_s`: a logged parameter and the values recorded for it. -/
structure LogEntry (K : Type) where
  parameter : Parameter
  log : List (Value K)

/-- `ParameterLog`: the entries of each typed log. -/
structure ParameterLog (K : Type) where
  intlog : List (LogEntry K)
  strlog : List (LogEntry K)
  reallog : List (LogEntry K)
  veclog : List (LogEntry K)
  mxlog : List (LogEntry K)

namespace ParameterLog
variable {K : Type}

/-- `ParameterLog(name, parameter_lookup)`: the held parameters without `NOLOG`, by type. -/
def make (nolog : ℕ) (r : ParameterReflection) : ParameterLog K :=
  let logged (t : ParameterType) : List (LogEntry K) :=
    (r.held.filter fun p => p.type = t ∧ p.flags &&& nolog = 0).map fun p => ⟨p, []⟩
  ⟨logged .INTEGER, logged .STRING, logged .REAL, logged .VECTOR, logged .MATRIX⟩

/-- `update()`: every entry of every log records what its parameter's storage holds. -/
def update (mem : Memory K) (pl : ParameterLog K) : ParameterLog K :=
  let push (es : List (LogEntry K)) : List (LogEntry K) :=
    es.map fun e => { e with log := e.log ++ [mem.read e.parameter.storage] }
  ⟨push pl.intlog, push pl.strlog, push pl.reallog, push pl.veclog, push pl.mxlog⟩

/-- The log that collects a type's parameters; there is none for `VOID`. -/
def logOf (pl : ParameterLog K) : ParameterType → List (LogEntry K)
  | .VOID => []
  | .INTEGER => pl.intlog
  | .STRING => pl.strlog
  | .REAL => pl.reallog
  | .VECTOR => pl.veclog
  | .MATRIX => pl.mxlog

end ParameterLog

/-! ### What the map holds -/

section Map
variable {m : List (String × Parameter)} {k k' : String} {v : Parameter}

theorem mapFind_eq_none : mapFind m k = none ↔ m.any (·.1 == k) = false := by
  simp only [mapFind, Option.map_eq_none', List.find?_eq_none, beq_iff_eq, Prod.forall,
    List.any_eq_false]

theorem mapFind_mapInsert :
    mapFind (mapInsert m k v) k' =
      if mapFind m k' = none ∧ k = k' then some v else mapFind m k' := by
  unfold mapInsert
  split
  · next h =>
    have : ¬ (mapFind m k = none) := fun h0 => (nomatch h.symm.trans (mapFind_eq_none.mp h0))
    split
    · next h' => exact absurd (h'.2 ▸ h'.1) this
    · rfl
  · next h =>
    simp only [mapFind, List.find?_append, Option.map_or]
    cases hf : m.find? (·.1 == k') <;> by_cases hk : k = k' <;> simp [hf, hk]

theorem mem_mapInsert {p : String × Parameter} (h : p ∈ mapInsert m k v) :
    p ∈ m ∨ p = (k, v) := by
  unfold mapInsert at h
  split at h
  · exact .inl h
  · simpa using h

end Map

namespace ParameterReflection

theorem mem_held {r : ParameterReflection} {p : Parameter} :
    p ∈ r.held ↔ ∃ k, (k, p) ∈ r.parameterLookup := by
  simp only [held, List.mem_map, List.mem_mergeSort, Prod.exists, exists_eq_right]

/-- Allocated objects are numbered below `allocated`, and each is held under its own name. -/
structure WellFormed (r : ParameterReflection) : Prop where
  lt : ∀ k p, (k, p) ∈ r.parameterLookup → p.id < r.allocated
  name : ∀ k p, (k, p) ∈ r.parameterLookup → p.name = k

theorem wellFormed_empty : empty.WellFormed :=
  ⟨fun _ _ h => (nomatch h), fun _ _ h => (nomatch h)⟩

theorem WellFormed.declareParameter {r : ParameterReflection} (hr : r.WellFormed)
    (name : String) (storage : Storage) (flags : ℕ) :
    (r.declareParameter name storage flags).1.WellFormed := by
  constructor
  all_goals
    intro k p h
    rcases mem_mapInsert h with h | h
  · exact Nat.lt_succ_of_lt (hr.lt k p h)
  · cases h; exact Nat.lt_succ_self _
  · exact hr.name k p h
  · cases h; rfl

/-- The states a sequence of `declareParameter` calls reaches. -/
inductive Reachable : ParameterReflection → Prop
  | empty : Reachable empty
  | declare {r : ParameterReflection} (name : String) (storage : Storage) (flags : ℕ) :
      Reachable r → Reachable (r.declareParameter name storage flags).1

theorem Reachable.wellFormed {r : ParameterReflection} (hr : r.Reachable) : r.WellFormed := by
  induction hr with
  | empty => exact wellFormed_empty
  | declare name storage flags _ ih => exact ih.declareParameter name storage flags

theorem mapFind_mem {m : List (String × Parameter)} {k : String} {p : Parameter}
    (h : mapFind m k = some p) : (k, p) ∈ m := by
  simp only [mapFind, Option.map_eq_some'] at h
  obtain ⟨⟨k', p'⟩, hf, rfl⟩ := h
  have hk : k' = k := by simpa using List.find?_some hf
  exact hk ▸ List.mem_of_find?_eq_some hf

/-- Declaring a name already declared returns an object the map does not hold. -/
theorem declareParameter_repeated_name {r : ParameterReflection} (hr : r.Reachable)
    {name : String} {p : Parameter} (hp : r.lookupParameter name = some p) (storage : Storage)
    (flags : ℕ) :
    let d := r.declareParameter name storage flags
    d.1.lookupParameter name = some p ∧ d.2 ≠ p ∧ d.2 ∉ d.1.held := by
  have hwf := hr.wellFormed
  have hin : r.parameterLookup.any (·.1 == name) = true := by
    cases h : r.parameterLookup.any (·.1 == name)
    · rw [← mapFind_eq_none] at h
      simp [lookupParameter, h] at hp
    · rfl
  have hlt := hwf.lt _ _ (mapFind_mem hp)
  refine ⟨?_, fun he => by simp [← he, declareParameter] at hlt, fun hm => ?_⟩
  · simpa [declareParameter, lookupParameter, mapInsert, hin] using hp
  · obtain ⟨k, hk⟩ := mem_held.mp hm
    simp only [declareParameter, mapInsert, hin, if_true] at hk
    have := hwf.lt _ _ hk
    simp [declareParameter] at this

theorem declareParameter_repeated_name_kp :
    let r := (ParameterReflection.empty.declareParameter "kp" (.real 0) 0).1
    r.Reachable ∧ r.lookupParameter "kp" = some ⟨0, "kp", .REAL, 0, .real 0⟩ ∧
      let d := r.declareParameter "kp" (.real 1) 0
      d.1.lookupParameter "kp" = some ⟨0, "kp", .REAL, 0, .real 0⟩ ∧
        d.2 ≠ ⟨0, "kp", .REAL, 0, .real 0⟩ ∧ d.2 ∉ d.1.held :=
  have hr : (ParameterReflection.empty.declareParameter "kp" (.real 0) 0).1.Reachable :=
    .declare "kp" (.real 0) 0 .empty
  have hp : (ParameterReflection.empty.declareParameter "kp" (.real 0) 0).1.lookupParameter "kp" =
      some ⟨0, "kp", .REAL, 0, .real 0⟩ := rfl
  ⟨hr, hp, declareParameter_repeated_name hr hp (.real 1) 0⟩

/-! ### Distinct names -/

theorem lookupParameter_declareParameter_of_ne {r : ParameterReflection} {name name' : String}
    (h : name ≠ name') (storage : Storage) (flags : ℕ) :
    (r.declareParameter name storage flags).1.lookupParameter name' = r.lookupParameter name' := by
  simp [declareParameter, lookupParameter, mapFind_mapInsert, h]

theorem lookupParameter_declareParameter_fresh {r : ParameterReflection} {name : String}
    (h : r.lookupParameter name = none) (storage : Storage) (flags : ℕ) :
    (r.declareParameter name storage flags).1.lookupParameter name =
      some (r.declareParameter name storage flags).2 := by
  simp only [lookupParameter] at h
  simp [declareParameter, lookupParameter, mapFind_mapInsert, h]

theorem lookupParameter_declareAll_of_not_mem (r : ParameterReflection)
    (ds : List (String × Storage × ℕ)) {name : String} (h : name ∉ ds.map Prod.fst) :
    (declareAll r ds).1.lookupParameter name = r.lookupParameter name := by
  induction ds generalizing r with
  | nil => rfl
  | cons d ds ih =>
    obtain ⟨n, storage, flags⟩ := d
    simp only [List.map_cons, List.mem_cons, not_or] at h
    rw [declareAll, ih _ h.2, lookupParameter_declareParameter_of_ne (Ne.symm h.1)]

theorem lookupParameter_declareAll (r : ParameterReflection) (ds : List (String × Storage × ℕ))
    (hd : (ds.map Prod.fst).Nodup) (hf : ∀ d ∈ ds, r.lookupParameter d.1 = none) :
    ∀ p ∈ (declareAll r ds).2, (declareAll r ds).1.lookupParameter p.name = some p := by
  induction ds generalizing r with
  | nil => exact fun _ h => (nomatch h)
  | cons d ds ih =>
    obtain ⟨n, storage, flags⟩ := d
    rw [List.map_cons, List.nodup_cons] at hd
    intro p hp
    simp only [declareAll, List.mem_cons] at hp ⊢
    rcases hp with rfl | hp
    · exact (lookupParameter_declareAll_of_not_mem _ ds hd.1).trans
        (lookupParameter_declareParameter_fresh (hf _ (List.mem_cons_self _ _)) storage flags)
    · refine ih _ hd.2 (fun d hd' => ?_) p hp
      have hne : n ≠ d.1 := fun e => hd.1 (List.mem_map.mpr ⟨d, hd', e.symm⟩)
      rw [lookupParameter_declareParameter_of_ne hne]
      exact hf d (List.mem_cons_of_mem _ hd')

/-- With distinct names, every object `declareParameter` returns is held and found by name. -/
theorem declareAll_distinct (ds : List (String × Storage × ℕ)) (hd : (ds.map Prod.fst).Nodup) :
    let d := declareAll empty ds
    ∀ p ∈ d.2, p ∈ d.1.held ∧ d.1.lookupParameter p.name = some p ∧
      d.1.lookupParameterOfType p.name p.type = some p := by
  intro d p hp
  have h := lookupParameter_declareAll empty ds hd (fun _ _ => rfl) p hp
  exact ⟨mem_held.mpr ⟨_, mapFind_mem h⟩, h, by simp [lookupParameterOfType, h]⟩

theorem declareAll_distinct_kp_kd :
    ([("kp", Storage.real 0, 0), ("kd", .real 1, 0)].map Prod.fst).Nodup ∧
      let d := declareAll empty [("kp", .real 0, 0), ("kd", .real 1, 0)]
      ∀ p ∈ d.2, p ∈ d.1.held ∧ d.1.lookupParameter p.name = some p ∧
        d.1.lookupParameterOfType p.name p.type = some p :=
  ⟨by decide, declareAll_distinct _ (by decide)⟩

/-! ### Repeated names -/

theorem lookupParameter_declareParameter (r : ParameterReflection) (name : String)
    (storage : Storage) (flags : ℕ) (n : String) :
    (r.declareParameter name storage flags).1.lookupParameter n =
      if r.lookupParameter n = none ∧ name = n then
        some (r.declareParameter name storage flags).2
      else r.lookupParameter n :=
  mapFind_mapInsert

theorem lookupParameter_declareAll_or (r : ParameterReflection)
    (ds : List (String × Storage × ℕ)) (n : String) :
    (declareAll r ds).1.lookupParameter n =
      (r.lookupParameter n).or ((declareAll r ds).2.find? (·.name == n)) := by
  induction ds generalizing r with
  | nil => simp [declareAll]
  | cons d ds ih =>
    obtain ⟨m, storage, flags⟩ := d
    simp only [declareAll]
    rw [ih, lookupParameter_declareParameter, List.find?_cons]
    by_cases hmn : m = n
    · subst hmn
      cases r.lookupParameter m <;> simp [declareParameter]
    · have hb : (m == n) = false := beq_eq_false_iff_ne.mpr hmn
      simp [hmn, hb, declareParameter]

/-- Whatever names repeat, a name finds the object its first `declareParameter` returned. -/
theorem lookupParameter_declareAll_first (ds : List (String × Storage × ℕ)) (n : String) :
    (declareAll empty ds).1.lookupParameter n = (declareAll empty ds).2.find? (·.name == n) :=
  lookupParameter_declareAll_or empty ds n

end ParameterReflection

/-! ### Setting through a parameter -/

namespace Memory
variable {K : Type} {mem mem' : Memory K} {s : Storage} {v : Value K}

theorem read_write? (h : mem.write? s v = some mem') (s' : Storage) :
    mem'.read s' = if s' = s then v else mem.read s' := by
  by_cases hs : s' = s
  · subst hs
    cases s' <;> cases v <;> simp only [write?, reduceCtorEq, Option.some.injEq] at h <;>
      subst h <;> simp [read]
  · rw [if_neg hs]
    cases s <;> cases v <;> simp only [write?, reduceCtorEq, Option.some.injEq] at h <;> subst h <;>
      cases s' <;> simp_all [read, Function.update_apply]

theorem write?_isSome (mem : Memory K) (s : Storage) (v : Value K) :
    (mem.write? s v).isSome ↔ v.type = s.type := by
  cases s <;> cases v <;> simp [write?, Value.type, Storage.type]

end Memory

section Set
variable {K : Type} (check : Memory K → Storage → Value K → Status) (p : Parameter) (v : Value K)
  (mem : Memory K)

theorem set_status :
    (p.set check v mem).1 =
      if v.type = p.storage.type then check mem p.storage v
      else { ok := false, errstr := "type mismatch" } := by
  have hty := Memory.write?_isSome mem p.storage v
  unfold Parameter.set
  split
  · next h =>
    have hP : ¬ v.type = p.storage.type := by simpa [h] using hty
    rw [if_neg hP]
  · next h =>
    have hP : v.type = p.storage.type := by simpa [h] using hty
    rw [if_pos hP]
    dsimp only
    split <;> rfl

/-- `set` assigns only a value of the parameter's type that passes the check. -/
theorem read_set (s : Storage) :
    (p.set check v mem).2.read s =
      if s = p.storage ∧ v.type = p.storage.type ∧ (check mem p.storage v).ok then v
      else mem.read s := by
  have hty := Memory.write?_isSome mem p.storage v
  unfold Parameter.set
  split
  · next h =>
    have hP : ¬ v.type = p.storage.type := by simpa [h] using hty
    simp [hP]
  · next mem' h =>
    have hP : v.type = p.storage.type := by simpa [h] using hty
    dsimp only
    by_cases hok : (check mem p.storage v).ok
    · simp [hok, hP, Memory.read_write? h]
    · simp [hok]

end Set

/-! ### Logging -/

namespace ParameterLog
variable {K : Type}

theorem logOf_update (mem : Memory K) (pl : ParameterLog K) (t : ParameterType) :
    (pl.update mem).logOf t =
      (pl.logOf t).map fun e => { e with log := e.log ++ [mem.read e.parameter.storage] } := by
  cases t <;> rfl

/-- A run of `update`s appends to every entry the values of its storage, in order. -/
theorem logOf_updates (ms : List (Memory K)) (pl : ParameterLog K) (t : ParameterType) :
    (ms.foldl (fun pl mem => pl.update mem) pl).logOf t =
      (pl.logOf t).map fun e =>
        { e with log := e.log ++ ms.map fun mem => mem.read e.parameter.storage } := by
  induction ms generalizing pl with
  | nil => simp
  | cons m ms ih =>
    rw [List.foldl_cons, ih, logOf_update, List.map_map]
    refine List.map_congr_left fun e _ => ?_
    simp

theorem logOf_make (nolog : ℕ) (r : ParameterReflection) {t : ParameterType}
    (ht : t ≠ .VOID) :
    (make nolog r : ParameterLog K).logOf t =
      (r.held.filter fun p => p.type = t ∧ p.flags &&& nolog = 0).map fun p => ⟨p, []⟩ := by
  cases t <;> first | exact absurd rfl ht | rfl

end ParameterLog

end WholeBodyControl.Opspace
