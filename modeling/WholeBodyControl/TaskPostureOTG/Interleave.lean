import WholeBodyControl.TaskPostureOTG.Register

/-! `update` on the realtime thread and a `SET_*` case of `uiCallback` on the service thread,
interleaved, each reduced to the buffers it accesses: a tick holds `clean(t0)` from its first
to its last access, and a callback copies `clean(t)` into `dirty(t)` before it increments
`ui_to_ctrl_tick_`. -/
namespace WholeBodyControl.TaskPostureOTG
open Eigen TaskPosture

variable {K : Type} {ndof : ℕ}

/-! ### The buffers each operation accesses -/

/-- A `SET_*` case writes no buffer but `dirty(t)`. -/
theorem setRequest_uiToCtrlData_of_ne (c : SetCase) (s : Plugin K ndof) (value : List K)
    {b : Fin 2} (hb : b ≠ dirty s.uiToCtrlTick) :
    (s.setRequest c value).1.uiToCtrlData b = s.uiToCtrlData b := by
  simp [Plugin.setRequest, hb]

theorem get_values (u : UiToCtrlS K) (f : Field) : u.values.get f = u.get f := by
  cases f <;> rfl

theorem getResponse_of_values (c : GetCase K) {u u' : UiToCtrlS K} (h : u.values = u'.values) :
    Plugin.getResponse c u = Plugin.getResponse c u' := by
  have hf : u.get c.field = u'.get c.field := by rw [← get_values, h, get_values]
  simp only [Plugin.getResponse, hf]

/-- A `GET_*` callback answers the same before and after a tick clears its buffer's flags. -/
theorem getResponse_stepTaskPosture_input [LinearOrderedField K] {lib : Reflexxes K}
    {svd : SVD K} {model : Model K ndof} {inp : UiToCtrlS K} {cursor : Level → OTGCursor K}
    {r : StepResult K} (h : stepTaskPosture lib svd model inp cursor = some r) (c : GetCase K) :
    Plugin.getResponse c r.input = Plugin.getResponse c inp := by
  rw [stepTaskPosture_input h]
  exact getResponse_of_values c (UiToCtrlS.values_afterStep inp _)

theorem getResponse_stepTaskPosture_input_init :
    let model : Model ℝ 1 := ⟨⟨fun _ _ _ => 0, fun _ _ _ => 0, 1, 0⟩, ⟨0, 0, 0⟩⟩
    let c : GetCase ℝ := ⟨.goal .TASK, 3, -2, 2, some "m", ["EE pos x", "EE pos y", "EE pos z"]⟩
    stepTaskPosture reflexxesHold svdZero model (initConfig (3 : ℝ) 1).toUiToCtrlS
        (cursors (Cursor.init 3) (Cursor.init 1)) =
      some (stepTyped svdZero model reflexxesHold (initConfig 3 1) (Cursor.init 3)
        (Cursor.init 1)) ∧
      Plugin.getResponse c (stepTyped svdZero model reflexxesHold (initConfig 3 1)
        (Cursor.init 3) (Cursor.init 1)).input =
        Plugin.getResponse c (initConfig (3 : ℝ) 1).toUiToCtrlS :=
  have h := stepTaskPosture_toUiToCtrlS svdZero ⟨⟨fun _ _ _ => 0, fun _ _ _ => 0, 1, 0⟩, ⟨0, 0, 0⟩⟩
    reflexxesHold (initConfig (3 : ℝ) 1) (Cursor.init 3) (Cursor.init 1)
  ⟨h, getResponse_stepTaskPosture_input h _⟩

/-! ### The interleaving -/

/-- The realtime thread: idle, or in `update` holding buffer `i` taken at `t0`, maybe writing it. -/
inductive TickPc
  | idle
  | holding (i : Fin 2) (t0 : BitVec 64) (writes : Bool)
  deriving DecidableEq

/-- The service thread: idle, or inside a `SET_*` case, copying buffer `src` into `dst`. -/
inductive CallbackPc
  | idle
  | copying (src dst : Fin 2)
  deriving DecidableEq

/-- `ui_to_ctrl_tick_` and the two threads. -/
structure Sys where
  uiToCtrlTick : BitVec 64
  ctrl : TickPc
  ui : CallbackPc
  deriving DecidableEq

/-- The atomic steps: a tick binds `in` and returns; a callback copies and increments the tick. -/
inductive Action
  | tickBegin (writes : Bool)
  | tickEnd
  | setBegin
  | setEnd

namespace Sys

/-- Both threads idle. -/
def init (t : BitVec 64) : Sys := ⟨t, .idle, .idle⟩

/-- One step; `none` when the thread is not at that point. -/
def next (s : Sys) : Action → Option Sys
  | .tickBegin w => match s.ctrl with
    | .idle => some { s with ctrl := .holding (clean s.uiToCtrlTick) s.uiToCtrlTick w }
    | .holding .. => none
  | .tickEnd => match s.ctrl with
    | .holding .. => some { s with ctrl := .idle }
    | .idle => none
  | .setBegin => match s.ui with
    | .idle => some { s with ui := .copying (clean s.uiToCtrlTick) (dirty s.uiToCtrlTick) }
    | .copying .. => none
  | .setEnd => match s.ui with
    | .copying .. => some { s with ui := .idle, uiToCtrlTick := s.uiToCtrlTick + 1 }
    | .idle => none

def run : Sys → List Action → Option Sys
  | s, [] => some s
  | s, a :: as => (s.next a).bind (run · as)

/-- One thread writes the buffer the other accesses. -/
def conflict (s : Sys) : Bool :=
  match s.ctrl, s.ui with
  | .holding i _ w, .copying src dst => dst = i || (w && src = i)
  | _, _ => false

end Sys

/-- The states reachable from both threads idle, whatever `ui_to_ctrl_tick_` is. -/
inductive Sys.Reachable : Sys → Prop
  | init (t : BitVec 64) : Sys.Reachable (Sys.init t)
  | step {s s' : Sys} (a : Action) : Sys.Reachable s → s.next a = some s' → Sys.Reachable s'

theorem Sys.Reachable.run {s s' : Sys} (hs : s.Reachable) (as : List Action)
    (h : s.run as = some s') : s'.Reachable := by
  induction as generalizing s with
  | nil => cases h; exact hs
  | cons a as ih =>
    obtain ⟨s₁, h₁, h⟩ := Option.bind_eq_some.mp h
    exact ih (.step a hs h₁) h

/-- What every reachable state keeps: each thread accesses the buffers of its counter. -/
structure Sys.Inv (s : Sys) : Prop where
  ctrl : ∀ i t0 w, s.ctrl = .holding i t0 w → i = clean t0
  ui : ∀ src dst, s.ui = .copying src dst →
    src = clean s.uiToCtrlTick ∧ dst = dirty s.uiToCtrlTick

theorem Sys.Inv.next {s s' : Sys} {a : Action} (hi : s.Inv) (h : s.next a = some s') :
    s'.Inv := by
  cases a with
  | tickBegin w =>
    cases hc : s.ctrl <;> simp only [Sys.next, hc, reduceCtorEq, Option.some.injEq] at h
    subst h
    exact ⟨fun i t0 w' he => (by cases he; rfl), hi.ui⟩
  | tickEnd =>
    cases hc : s.ctrl <;> simp only [Sys.next, hc, reduceCtorEq, Option.some.injEq] at h
    subst h
    exact ⟨fun _ _ _ he => (nomatch he), hi.ui⟩
  | setBegin =>
    cases hu : s.ui <;> simp only [Sys.next, hu, reduceCtorEq, Option.some.injEq] at h
    subst h
    exact ⟨hi.ctrl, fun src dst he => (by cases he; exact ⟨rfl, rfl⟩)⟩
  | setEnd =>
    cases hu : s.ui <;> simp only [Sys.next, hu, reduceCtorEq, Option.some.injEq] at h
    subst h
    exact ⟨hi.ctrl, fun _ _ he => (nomatch he)⟩

theorem Sys.Reachable.inv {s : Sys} (hs : s.Reachable) : s.Inv := by
  induction hs with
  | init t => exact ⟨fun _ _ _ h => (nomatch h), fun _ _ h => (nomatch h)⟩
  | step a _ h ih => exact ih.next h

theorem clean_eq_clean_iff (t t0 : BitVec 64) : clean t = clean t0 ↔ (t - t0).toNat % 2 = 0 := by
  simp only [clean, Fin.mk.injEq]
  bv_omega

/-- The threads conflict exactly when an odd number of callbacks completed or the tick writes. -/
theorem reachable_conflict_iff {s : Sys} (hs : s.Reachable) {i src dst : Fin 2}
    {t0 : BitVec 64} {w : Bool} (hc : s.ctrl = .holding i t0 w) (hu : s.ui = .copying src dst) :
    (dst = i ↔ (s.uiToCtrlTick - t0).toNat % 2 = 1) ∧
      (src = i ↔ (s.uiToCtrlTick - t0).toNat % 2 = 0) ∧
      (s.conflict = true ↔ ((s.uiToCtrlTick - t0).toNat % 2 = 1 ∨ w = true)) := by
  obtain ⟨hi, hsd⟩ := hs.inv
  obtain rfl := hi i t0 w hc
  obtain ⟨rfl, rfl⟩ := hsd src dst hu
  have hsrc := clean_eq_clean_iff s.uiToCtrlTick t0
  have hdst : dirty s.uiToCtrlTick = clean t0 ↔ (s.uiToCtrlTick - t0).toNat % 2 = 1 := by
    rw [dirty_eq_clean_succ, clean_eq_clean_iff]
    bv_omega
  refine ⟨hdst, hsrc, ?_⟩
  simp only [Sys.conflict, hc, hu, Bool.or_eq_true, decide_eq_true_eq, Bool.and_eq_true, hdst,
    hsrc]
  rcases Nat.mod_two_eq_zero_or_one (s.uiToCtrlTick - t0).toNat with h | h <;> rw [h] <;>
    cases w <;> decide

theorem reachable_conflict_iff_two_sets :
    let s := ((Sys.init 1).run [.tickBegin false, .setBegin, .setEnd, .setBegin]).getD (Sys.init 1)
    s.Reachable ∧ s.ctrl = .holding 1 1 false ∧ s.ui = .copying 0 1 ∧
      ((1 : Fin 2) = 1 ↔ (s.uiToCtrlTick - 1).toNat % 2 = 1) ∧
      ((0 : Fin 2) = 1 ↔ (s.uiToCtrlTick - 1).toNat % 2 = 0) ∧
      (s.conflict = true ↔ ((s.uiToCtrlTick - 1).toNat % 2 = 1 ∨ false = true)) :=
  have hs : Sys.Reachable (((Sys.init 1).run
      [.tickBegin false, .setBegin, .setEnd, .setBegin]).getD (Sys.init 1)) :=
    (Sys.Reachable.init 1).run [.tickBegin false, .setBegin, .setEnd, .setBegin] rfl
  ⟨hs, rfl, rfl, reachable_conflict_iff hs rfl rfl⟩

/-- Two `SET_*` requests within one tick: the second copies into the buffer the tick reads. -/
theorem two_sets_within_one_tick :
    ∃ s, (Sys.init 1).run [.tickBegin false, .setBegin, .setEnd, .setBegin] = some s ∧
      s.Reachable ∧ s.conflict = true :=
  ⟨_, rfl, (Sys.Reachable.init 1).run [.tickBegin false, .setBegin, .setEnd, .setBegin] rfl,
    rfl⟩

end WholeBodyControl.TaskPostureOTG
