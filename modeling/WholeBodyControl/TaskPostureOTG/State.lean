import WholeBodyControl.TaskPosture.Law

/-! The data of `TaskPostureOTGPlugin`: the double-buffered `ui_to_ctrl_s`, its index
arithmetic, and the shared `OTGCursor` driving the Reflexxes trajectory generator. -/
namespace WholeBodyControl.TaskPostureOTG
open Eigen

variable {K : Type}

/-- The levels `TASK` and `POSTURE` (`NLEVELS` is two). -/
inductive Level
  | TASK
  | POSTURE
  deriving DecidableEq, Repr

/-- `level_s`, without its `otg` and `cursor` pointers, which `Plugin` keeps once. -/
@[ext] structure LevelS (K : Type) where
  goal : DVec K
  maxvel : DVec K
  maxacc : DVec K
  kp : DVec K
  kd : DVec K
  goalChanged : Bool

/-- `ui_to_ctrl_s`, without `end_effector`, which no request changes. -/
@[ext] structure UiToCtrlS (K : Type) where
  controlPoint : DVec K
  level : Level → LevelS K

/-! ### The double buffer's indices -/

/-- `clean(tick)`: `tick % NBUF` with `NBUF = 2`, on a `size_t`. -/
def clean (tick : BitVec 64) : Fin 2 := ⟨tick.toNat % 2, Nat.mod_lt _ (by decide)⟩

/-- `dirty(tick)`: `(tick - 1) % NBUF`, where `tick - 1` wraps around at zero. -/
def dirty (tick : BitVec 64) : Fin 2 := ⟨(tick - 1).toNat % 2, Nat.mod_lt _ (by decide)⟩

theorem dirty_eq_clean_succ (t : BitVec 64) : dirty t = clean (t + 1) := by
  simp only [dirty, clean, Fin.mk.injEq]
  bv_omega

theorem clean_succ_ne (t : BitVec 64) : clean (t + 1) ≠ clean t := by
  simp only [clean, ne_eq, Fin.mk.injEq]
  bv_omega

theorem dirty_ne_clean (t : BitVec 64) : dirty t ≠ clean t := by
  rw [dirty_eq_clean_succ]; exact clean_succ_ne t

theorem clean_add_two (t : BitVec 64) : clean (t + 1 + 1) = clean t := by
  simp only [clean, Fin.mk.injEq]
  bv_omega

/-! ### Levels and buffers -/

namespace LevelS

/-- The vectors of a level with the size `stepTaskPosture` requires. -/
def WellSized (d : ℕ) (l : LevelS K) : Prop :=
  l.goal.rows = d ∧ l.maxvel.rows = d ∧ l.maxacc.rows = d ∧ l.kp.rows = d ∧ l.kd.rows = d

instance (d : ℕ) (l : LevelS K) : Decidable (l.WellSized d) := by
  unfold WellSized; infer_instance

end LevelS

/-- The sizes `stepTaskPosture` requires of each level: 3 for `TASK`, `ndof` for `POSTURE`. -/
def Level.size (ndof : ℕ) : Level → ℕ
  | .TASK => 3
  | .POSTURE => ndof

namespace UiToCtrlS

/-- Every vector of a buffer has the size `stepTaskPosture`'s sanity checks require. -/
def WellSized (ndof : ℕ) (u : UiToCtrlS K) : Prop :=
  u.controlPoint.rows = 3 ∧ ∀ l, (u.level l).WellSized (l.size ndof)

theorem wellSized_iff {ndof : ℕ} {u : UiToCtrlS K} :
    u.WellSized ndof ↔ u.controlPoint.rows = 3 ∧ (u.level .TASK).WellSized 3 ∧
      (u.level .POSTURE).WellSized ndof :=
  ⟨fun ⟨h, hl⟩ => ⟨h, hl .TASK, hl .POSTURE⟩,
    fun ⟨h, ht, hp⟩ => ⟨h, fun l => by cases l; exacts [ht, hp]⟩⟩

/-- Write the `goal_changed` flag of one level (it is `mutable`). -/
def setGoalChanged (u : UiToCtrlS K) (l : Level) (b : Bool) : UiToCtrlS K :=
  { u with level := Function.update u.level l { u.level l with goalChanged := b } }

@[simp] theorem setGoalChanged_controlPoint (u : UiToCtrlS K) (l : Level) (b : Bool) :
    (u.setGoalChanged l b).controlPoint = u.controlPoint := rfl

@[simp] theorem setGoalChanged_level (u : UiToCtrlS K) (l l' : Level) (b : Bool) :
    (u.setGoalChanged l b).level l' =
      if l' = l then { u.level l' with goalChanged := b } else u.level l' := by
  by_cases h : l' = l <;> simp [setGoalChanged, Function.update, h]

theorem wellSized_setGoalChanged {ndof : ℕ} {u : UiToCtrlS K} (h : u.WellSized ndof)
    (l : Level) (b : Bool) : (u.setGoalChanged l b).WellSized ndof := by
  refine ⟨h.1, fun l' => ?_⟩
  have := h.2 l'
  simp only [setGoalChanged_level]
  split <;> simpa [LevelS.WellSized] using this

end UiToCtrlS

/-! ### The trajectory generator -/

/-- `TypeIOTG(dof, cycle_time)`: its dimension and cycle time. -/
structure TypeIOTG (K : Type) where
  dof : ℕ
  cycleTime : K

/-- `TypeIOTG::GetNextMotionState_Position`: a result code and the next position and velocity. -/
def Reflexxes (K : Type) :=
  (dof : ℕ) → K → (Fin dof → K) → (Fin dof → K) → (Fin dof → K) → (Fin dof → K) →
    (Fin dof → K) → (Fin dof → Bool) → ℤ × (Fin dof → K) × (Fin dof → K)

def reflexxesHold : Reflexxes ℝ := fun _ _ pos vel _ _ _ _ => (0, pos, vel)

/-- `OTGCursor`: the trajectory's current (`clean`) and next (`dirty`) state. -/
structure OTGCursor (K : Type) where
  selection : DVec Bool
  posClean : DVec K
  velClean : DVec K
  posDirty : DVec K
  velDirty : DVec K

namespace OTGCursor

/-- `OTGCursor(ndof)`: zero state, every degree of freedom selected. -/
def init [Zero K] (ndof : ℕ) : OTGCursor K :=
  ⟨.constant ndof true, .constant ndof 0, .constant ndof 0, .constant ndof 0, .constant ndof 0⟩

/-- `OTGCursor::next`: on the generator's success the dirty state becomes the clean one. -/
def next (lib : Reflexxes K) (otg : TypeIOTG K) (c : OTGCursor K)
    (maxvel maxacc goal : DVec K) : Option (ℤ × OTGCursor K) := do
  let pos ← c.posClean.read? otg.dof
  let vel ← c.velClean.read? otg.dof
  let mv ← maxvel.read? otg.dof
  let ma ← maxacc.read? otg.dof
  let g ← goal.read? otg.dof
  let sel ← c.selection.read? otg.dof
  let (result, pos', vel') := lib otg.dof otg.cycleTime pos vel mv ma g sel
  let posDirty ← c.posDirty.write? otg.dof pos'
  let velDirty ← c.velDirty.write? otg.dof vel'
  if 0 ≤ result then
    some (result, ⟨c.selection, posDirty, velDirty, posDirty, velDirty⟩)
  else
    some (result, { c with posDirty := posDirty, velDirty := velDirty })

/-- Every array of the cursor has the generator's dimension. -/
def WellSized (d : ℕ) (c : OTGCursor K) : Prop :=
  c.selection.rows = d ∧ c.posClean.rows = d ∧ c.velClean.rows = d ∧ c.posDirty.rows = d ∧
    c.velDirty.rows = d

theorem wellSized_init [Zero K] (d : ℕ) : (init d : OTGCursor K).WellSized d := by
  simp [WellSized, init]

end OTGCursor

/-- One level of `stepTaskPosture`: re-initialise the cursor on a goal change, then step it. -/
def levelStep? (lib : Reflexxes K) (otg : TypeIOTG K) (lv : LevelS K) (c : OTGCursor K)
    (curpos curvel : DVec K) : Option (ℤ × OTGCursor K) :=
  let c := if lv.goalChanged then { c with posClean := curpos, velClean := curvel } else c
  c.next lib otg lv.maxvel lv.maxacc lv.goal

/-! ### Well-sized data -/

/-- A level whose vectors all have `d` entries. -/
structure LevelConfig (K : Type) (d : ℕ) where
  goal : Fin d → K
  maxvel : Fin d → K
  maxacc : Fin d → K
  kp : Fin d → K
  kd : Fin d → K
  goalChanged : Bool

def LevelConfig.toLevelS {d : ℕ} (c : LevelConfig K d) : LevelS K :=
  ⟨⟨d, c.goal⟩, ⟨d, c.maxvel⟩, ⟨d, c.maxacc⟩, ⟨d, c.kp⟩, ⟨d, c.kd⟩,
    c.goalChanged⟩

/-- A buffer whose vectors have the sizes the sanity checks require. -/
structure Config (K : Type) (ndof : ℕ) where
  controlPoint : Fin 3 → K
  task : LevelConfig K 3
  posture : LevelConfig K ndof

def Config.toUiToCtrlS {ndof : ℕ} (c : Config K ndof) : UiToCtrlS K where
  controlPoint := ⟨3, c.controlPoint⟩
  level
    | .TASK => c.task.toLevelS
    | .POSTURE => c.posture.toLevelS

@[simp] theorem Config.toUiToCtrlS_controlPoint {ndof : ℕ} (c : Config K ndof) :
    c.toUiToCtrlS.controlPoint = ⟨3, c.controlPoint⟩ := rfl

@[simp] theorem Config.toUiToCtrlS_task {ndof : ℕ} (c : Config K ndof) :
    c.toUiToCtrlS.level .TASK = c.task.toLevelS := rfl

@[simp] theorem Config.toUiToCtrlS_posture {ndof : ℕ} (c : Config K ndof) :
    c.toUiToCtrlS.level .POSTURE = c.posture.toLevelS := rfl

theorem Config.wellSized {ndof : ℕ} (c : Config K ndof) : c.toUiToCtrlS.WellSized ndof :=
  ⟨rfl, fun l => by cases l <;> exact ⟨rfl, rfl, rfl, rfl, rfl⟩⟩

theorem LevelConfig.exists_toLevelS {d : ℕ} {l : LevelS K} (h : l.WellSized d) :
    ∃ c : LevelConfig K d, c.toLevelS = l := by
  obtain ⟨⟨_, goal⟩, ⟨_, maxvel⟩, ⟨_, maxacc⟩, ⟨_, kp⟩, ⟨_, kd⟩, gc⟩ := l
  dsimp only [LevelS.WellSized] at h
  obtain ⟨rfl, rfl, rfl, rfl, rfl⟩ := h
  exact ⟨⟨goal, maxvel, maxacc, kp, kd, gc⟩, rfl⟩

theorem Config.exists_toUiToCtrlS {ndof : ℕ} {u : UiToCtrlS K} (h : u.WellSized ndof) :
    ∃ c : Config K ndof, c.toUiToCtrlS = u := by
  obtain ⟨⟨_, cp⟩, level⟩ := u
  obtain ⟨rfl, hl⟩ := h
  obtain ⟨t, ht⟩ := LevelConfig.exists_toLevelS (hl .TASK)
  obtain ⟨p, hp⟩ := LevelConfig.exists_toLevelS (hl .POSTURE)
  refine ⟨⟨cp, t, p⟩, congrArg _ (funext fun l => ?_)⟩
  cases l
  exacts [ht, hp]

/-- A cursor whose arrays all have `d` entries. -/
structure Cursor (K : Type) (d : ℕ) where
  selection : Fin d → Bool
  posClean : Fin d → K
  velClean : Fin d → K
  posDirty : Fin d → K
  velDirty : Fin d → K

namespace Cursor
variable {d : ℕ}

def toOTGCursor (c : Cursor K d) : OTGCursor K :=
  ⟨⟨d, c.selection⟩, ⟨d, c.posClean⟩, ⟨d, c.velClean⟩, ⟨d, c.posDirty⟩,
    ⟨d, c.velDirty⟩⟩

/-- `OTGCursor(ndof)` on well-sized data. -/
def init [Zero K] (d : ℕ) : Cursor K d := ⟨fun _ => true, 0, 0, 0, 0⟩

theorem wellSized_toOTGCursor (c : Cursor K d) : c.toOTGCursor.WellSized d :=
  ⟨rfl, rfl, rfl, rfl, rfl⟩

theorem exists_toOTGCursor {c : OTGCursor K} (h : c.WellSized d) :
    ∃ c' : Cursor K d, c'.toOTGCursor = c := by
  obtain ⟨⟨_, sel⟩, ⟨_, pc⟩, ⟨_, vc⟩, ⟨_, pd⟩, ⟨_, vd⟩⟩ := c
  dsimp only [OTGCursor.WellSized] at h
  obtain ⟨rfl, rfl, rfl, rfl, rfl⟩ := h
  exact ⟨⟨sel, pc, vc, pd, vd⟩, rfl⟩

/-- `OTGCursor::next` on a well-sized cursor. -/
def next (lib : Reflexxes K) (cycleTime : K) (c : Cursor K d) (maxvel maxacc goal : Fin d → K) :
    ℤ × Cursor K d :=
  let r := lib d cycleTime c.posClean c.velClean maxvel maxacc goal c.selection
  if 0 ≤ r.1 then (r.1, ⟨c.selection, r.2.1, r.2.2, r.2.1, r.2.2⟩)
  else (r.1, { c with posDirty := r.2.1, velDirty := r.2.2 })

def levelStep (lib : Reflexxes K) (cycleTime : K) (lv : LevelConfig K d) (c : Cursor K d)
    (curpos curvel : Fin d → K) : ℤ × Cursor K d :=
  (if lv.goalChanged then { c with posClean := curpos, velClean := curvel } else c).next
    lib cycleTime lv.maxvel lv.maxacc lv.goal

theorem next_toOTGCursor (lib : Reflexxes K) (cycleTime : K) (c : Cursor K d)
    (maxvel maxacc goal : Fin d → K) :
    c.toOTGCursor.next lib ⟨d, cycleTime⟩ ⟨d, maxvel⟩ ⟨d, maxacc⟩ ⟨d, goal⟩ =
      some ((c.next lib cycleTime maxvel maxacc goal).1,
        (c.next lib cycleTime maxvel maxacc goal).2.toOTGCursor) := by
  simp only [OTGCursor.next, toOTGCursor, next, DVec.read?_mk, DVec.write?_mk, Option.bind_eq_bind,
    Option.some_bind]
  split <;> rfl

theorem levelStep?_toOTGCursor (lib : Reflexxes K) (cycleTime : K) (lv : LevelConfig K d)
    (c : Cursor K d) (curpos curvel : Fin d → K) :
    levelStep? lib ⟨d, cycleTime⟩ lv.toLevelS c.toOTGCursor ⟨d, curpos⟩ ⟨d, curvel⟩ =
      some ((c.levelStep lib cycleTime lv curpos curvel).1,
        (c.levelStep lib cycleTime lv curpos curvel).2.toOTGCursor) := by
  obtain ⟨goal, maxvel, maxacc, kp, kd, _ | _⟩ := lv
  · exact next_toOTGCursor lib cycleTime c maxvel maxacc goal
  · exact next_toOTGCursor lib cycleTime { c with posClean := curpos, velClean := curvel } maxvel
      maxacc goal

end Cursor

end WholeBodyControl.TaskPostureOTG
