import WholeBodyControl.TaskPostureOTG.Step

/-! `TaskPostureOTGPlugin`: `init`, the `/wbc_pr2_ctrl/tp_ui` service callback and the
realtime `update`, each run to completion, and the states they reach. -/
namespace WholeBodyControl.TaskPostureOTG
open Eigen TaskPosture

variable {K : Type} {ndof : ℕ}

/-- `TaskPostureUI::Request::mode`: the fourteen modes `uiCallback` handles, and any other value. -/
inductive Mode
  | SET_CONTROL_POINT
  | SET_TASK_GOAL
  | SET_TASK_KP
  | SET_TASK_KD
  | SET_POSTURE_GOAL
  | SET_POSTURE_KP
  | SET_POSTURE_KD
  | GET_CONTROL_POINT
  | GET_TASK_GOAL
  | GET_TASK_KP
  | GET_TASK_KD
  | GET_POSTURE_GOAL
  | GET_POSTURE_KP
  | GET_POSTURE_KD
  | invalid (code : ℤ)
  deriving DecidableEq, Repr

/-- `TaskPostureUI::Request`. -/
structure Request (K : Type) where
  mode : Mode
  value : List K

/-- `TaskPostureUI::Response`, as `uiCallback` starts it: `ok` set, every list empty. -/
structure Response (K : Type) where
  ok : Bool := true
  errstr : String := ""
  value : List K := []
  lowerBound : List K := []
  upperBound : List K := []
  unit : List String := []
  name : List String := []

/-- The vectors a request names. -/
inductive Field
  | controlPoint
  | goal (l : Level)
  | kp (l : Level)
  | kd (l : Level)

namespace UiToCtrlS

def get (u : UiToCtrlS K) : Field → DVec K
  | .controlPoint => u.controlPoint
  | .goal l => (u.level l).goal
  | .kp l => (u.level l).kp
  | .kd l => (u.level l).kd

def updateLevel (u : UiToCtrlS K) (l : Level) (f : LevelS K → LevelS K) : UiToCtrlS K :=
  { u with level := Function.update u.level l (f (u.level l)) }

/-- `jspace::convert(request.value, out.field)`. -/
def set (u : UiToCtrlS K) : Field → DVec K → UiToCtrlS K
  | .controlPoint, v => { u with controlPoint := v }
  | .goal l, v => u.updateLevel l fun lv => { lv with goal := v }
  | .kp l, v => u.updateLevel l fun lv => { lv with kp := v }
  | .kd l, v => u.updateLevel l fun lv => { lv with kd := v }

@[simp] theorem updateLevel_controlPoint (u : UiToCtrlS K) (l : Level) (f : LevelS K → LevelS K) :
    (u.updateLevel l f).controlPoint = u.controlPoint := rfl

@[simp] theorem updateLevel_level (u : UiToCtrlS K) (l l' : Level) (f : LevelS K → LevelS K) :
    (u.updateLevel l f).level l' = if l' = l then f (u.level l') else u.level l' := by
  by_cases h : l' = l <;> simp [updateLevel, Function.update, h]

@[simp] theorem get_set_self (u : UiToCtrlS K) (f : Field) (v : DVec K) :
    (u.set f v).get f = v := by
  cases f <;> simp [set, get]

theorem get_set_of_ne (u : UiToCtrlS K) {f f' : Field} (h : f' ≠ f) (v : DVec K) :
    (u.set f' v).get f = u.get f := by
  cases f <;> cases f' <;> simp_all [set, get, apply_ite, Ne.symm]

/-- `ui_to_ctrl_s::operator=`: every field the model keeps is copied. -/
def assign (_lhs rhs : UiToCtrlS K) : UiToCtrlS K :=
  ⟨rhs.controlPoint, fun l =>
    ⟨(rhs.level l).goal, (rhs.level l).maxvel, (rhs.level l).maxacc, (rhs.level l).kp,
      (rhs.level l).kd, (rhs.level l).goalChanged⟩⟩

@[simp] theorem assign_eq (lhs rhs : UiToCtrlS K) : lhs.assign rhs = rhs := rfl

end UiToCtrlS

/-- A `SET_*` case: the vector it writes, the size it requires, the goal it marks, its error. -/
structure SetCase where
  field : Field
  size : ℕ
  marksGoal : Option Level
  errstr : String

/-- A `GET_*` case: the vector it reads, its bound count, bounds, unit and names. -/
structure GetCase (K : Type) where
  field : Field
  count : ℕ
  lowerBound : K
  upperBound : K
  unit : Option String
  name : List String

/-- `"joint pos " << ii` and its siblings, for `ii < ndof_`. -/
def jointNames (label : String) (n : ℕ) : List String :=
  (List.range n).map fun ii => label ++ toString ii

/-- A `SET_*` case on the copied buffer: write the value if it has the required size. -/
def SetCase.run (c : SetCase) (out : UiToCtrlS K) (value : List K) : UiToCtrlS K × Response K :=
  if value.isEmpty then (out, {})
  else if value.length = c.size then
    let out := out.set c.field (.ofList value)
    (match c.marksGoal with
      | some l => out.setGoalChanged l true
      | none => out, {})
  else (out, { ok := false, errstr := c.errstr })

/-- How `uiCallback` handles a request mode. -/
inductive Handling (K : Type)
  | set (c : SetCase)
  | get (c : GetCase K)
  | invalid (code : ℤ)

/-- The `switch (request.mode)` of `uiCallback`, case by case. -/
def handling [Neg K] [Mul K] [OfNat K 0] [OfNat K 1] [OfNat K 2] [OfNat K 63] [OfNat K 1000]
    (ndof : ℕ) (mPi : K) : Mode → Handling K
  | .SET_CONTROL_POINT => .set ⟨.controlPoint, 3, none, "invalid control point dimension"⟩
  | .SET_TASK_GOAL => .set ⟨.goal .TASK, 3, some .TASK, "invalid task goal dimension"⟩
  | .SET_TASK_KP => .set ⟨.kp .TASK, 3, none, "invalid task kp dimension"⟩
  | .SET_TASK_KD => .set ⟨.kd .TASK, 3, none, "invalid task kd dimension"⟩
  | .SET_POSTURE_GOAL =>
    .set ⟨.goal .POSTURE, ndof, some .POSTURE, "invalid posture goal dimension"⟩
  | .SET_POSTURE_KP => .set ⟨.kp .POSTURE, ndof, none, "invalid posture kp dimension"⟩
  | .SET_POSTURE_KD => .set ⟨.kd .POSTURE, ndof, none, "invalid posture kd dimension"⟩
  | .GET_CONTROL_POINT =>
    .get ⟨.controlPoint, 3, -1, 1, some "m", ["ctrl pt x", "ctrl pt y", "ctrl pt z"]⟩
  | .GET_TASK_GOAL =>
    .get ⟨.goal .TASK, 3, -2, 2, some "m", ["EE pos x", "EE pos y", "EE pos z"]⟩
  | .GET_TASK_KP => .get ⟨.kp .TASK, 3, 0, 1000, none, ["kp x", "kp y", "kp z"]⟩
  | .GET_TASK_KD => .get ⟨.kd .TASK, 3, 0, 63, none, ["kd x", "kd y", "kd z"]⟩
  | .GET_POSTURE_GOAL =>
    .get ⟨.goal .POSTURE, ndof, -2 * mPi, 2 * mPi, some "rad", jointNames "joint pos " ndof⟩
  | .GET_POSTURE_KP => .get ⟨.kp .POSTURE, ndof, 0, 1000, none, jointNames "joint kp " ndof⟩
  | .GET_POSTURE_KD => .get ⟨.kd .POSTURE, ndof, 0, 63, none, jointNames "joint kd " ndof⟩
  | .invalid code => .invalid code

/-- The plugin after `init`: both buffers and ticks, the shared cursors and `out.tau`. -/
structure Plugin (K : Type) (ndof : ℕ) where
  uiToCtrlTick : BitVec 64
  uiToCtrlData : Fin 2 → UiToCtrlS K
  cursor : Level → OTGCursor K
  ctrlToUiTick : BitVec 64
  tau : Fin 2 → DVec K

namespace Plugin

/-- `ui_to_ctrl_data_[clean(ui_to_ctrl_tick_)]`, which ticks and `GET` requests read. -/
def cleanBuffer (s : Plugin K ndof) : UiToCtrlS K := s.uiToCtrlData (clean s.uiToCtrlTick)

/-- The body of the `SET_*` cases: copy the clean buffer, run the case, `++ui_to_ctrl_tick_`. -/
def setRequest (c : SetCase) (s : Plugin K ndof) (value : List K) : Plugin K ndof × Response K :=
  let r := c.run ((s.uiToCtrlData (dirty s.uiToCtrlTick)).assign s.cleanBuffer) value
  ({ s with
      uiToCtrlData := Function.update s.uiToCtrlData (dirty s.uiToCtrlTick) r.1
      uiToCtrlTick := s.uiToCtrlTick + 1 }, r.2)

/-- The body shared by the `GET_*` cases: the clean buffer's vector and its annotations. -/
def getResponse (c : GetCase K) (u : UiToCtrlS K) : Response K where
  value := (u.get c.field).toList
  lowerBound := List.replicate c.count c.lowerBound
  upperBound := List.replicate c.count c.upperBound
  unit := match c.unit with
    | some unit => List.replicate c.count unit
    | none => []
  name := c.name

end Plugin

section Field
variable [LinearOrderedField K]

/-- `uiCallback(request, response)`; it always returns `true`. -/
def uiCallback (mPi : K) (s : Plugin K ndof) (req : Request K) : Plugin K ndof × Response K :=
  match handling ndof mPi req.mode with
  | .set c => s.setRequest c req.value
  | .get c => (s, Plugin.getResponse c s.cleanBuffer)
  | .invalid code => (s, { ok := false, errstr := "invalid mode: " ++ toString code })

/-- The buffer `init` writes into both `ui_to_ctrl_data_` entries. -/
def initialUiToCtrl (mPi : K) (ndof : ℕ) : UiToCtrlS K where
  controlPoint := .constant 3 0
  level
    | .TASK => ⟨.constant 3 0.6, .constant 3 0.3, .constant 3 0.6, .constant 3 100,
        .constant 3 20, true⟩
    | .POSTURE => ⟨.constant ndof (20 * mPi / 180), .constant ndof mPi, .constant ndof (2 * mPi),
        .constant ndof 100, .constant ndof 20, true⟩

def initConfig (mPi : K) (ndof : ℕ) : Config K ndof :=
  ⟨0, ⟨fun _ => 0.6, fun _ => 0.3, fun _ => 0.6, fun _ => 100, fun _ => 20, true⟩,
    ⟨fun _ => 20 * mPi / 180, fun _ => mPi, fun _ => 2 * mPi, fun _ => 100, fun _ => 20,
      true⟩⟩

theorem initialUiToCtrl_eq (mPi : K) (ndof : ℕ) :
    initialUiToCtrl mPi ndof = (initConfig mPi ndof).toUiToCtrlS := by
  simp only [initialUiToCtrl, Config.toUiToCtrlS, UiToCtrlS.mk.injEq]
  exact ⟨rfl, funext fun l => by cases l <;> rfl⟩

/-- The plugin after a successful `init`; the constructor started both ticks at one. -/
def init (mPi : K) (ndof : ℕ) : Plugin K ndof where
  uiToCtrlTick := 1
  uiToCtrlData := fun _ => initialUiToCtrl mPi ndof
  cursor
    | .TASK => .init 3
    | .POSTURE => .init ndof
  ctrlToUiTick := 1
  tau := fun _ => .constant ndof 0

theorem init_cursor (mPi : K) (ndof : ℕ) :
    (init mPi ndof).cursor = cursors (Cursor.init 3) (Cursor.init ndof : Cursor K ndof) :=
  funext fun l => by cases l <;> rfl

/-- What a tick reads from outside: the joints, the model and the missing `return`'s value. -/
structure TickInput (K : Type) (ndof : ℕ) where
  joints : JointState K ndof
  dyn : Dynamics K ndof
  fallOff : Bool

/-- `out.tau` after the call: the torque if the success path assigned it, else the previous one. -/
def Outcome.tau (prev : DVec K) : Outcome K → DVec K
  | .fellOff tau => tau
  | _ => prev

/-- The per-joint loop of `update`: command `out.tau` if `ok`, else zero it and command zero. -/
def commandEfforts? (ndof : ℕ) (ok : Bool) (tau : DVec K) : Option (DVec K × (Fin ndof → K)) :=
  if ok then (tau.read? ndof).map fun e => (tau, e)
  else (tau.write? ndof 0).map fun tau => (tau, 0)

@[simp] theorem commandEfforts?_mk (ok : Bool) (x : Fin ndof → K) :
    commandEfforts? ndof ok ⟨ndof, x⟩ =
      some (if ok then (⟨ndof, x⟩, x) else (⟨ndof, 0⟩, 0)) := by
  cases ok <;> simp [commandEfforts?]

/-- The state after a tick that stepped to `r` and left `tau` in `out.tau`. -/
def Plugin.afterTick (s : Plugin K ndof) (r : StepResult K) (tau : DVec K) : Plugin K ndof :=
  ⟨s.uiToCtrlTick, Function.update s.uiToCtrlData (clean s.uiToCtrlTick) r.input, r.cursor,
    s.ctrlToUiTick + 1, Function.update s.tau (dirty s.ctrlToUiTick) tau⟩

/-- `update()`: step on the clean buffer, then run the per-joint loop; the commanded efforts. -/
def update (lib : Reflexxes K) (svd : SVD K) (s : Plugin K ndof) (t : TickInput K ndof) :
    Option (Plugin K ndof × (Fin ndof → K)) := do
  let r ← stepTaskPosture lib svd ⟨t.dyn, t.joints⟩ s.cleanBuffer s.cursor
  let out ← commandEfforts? ndof (r.outcome.ok t.fallOff)
    (r.outcome.tau (s.tau (dirty s.ctrlToUiTick)))
  some (s.afterTick r out.1, out.2)

/-- The plugin's events, each executed atomically. -/
inductive Event (K : Type) (ndof : ℕ)
  | uiCallback (req : Request K)
  | update (t : TickInput K ndof)

/-- One event; `none` when the code has undefined behaviour or trips an assertion. -/
def Plugin.next (lib : Reflexxes K) (svd : SVD K) (mPi : K) (s : Plugin K ndof) :
    Event K ndof → Option (Plugin K ndof)
  | .uiCallback req => some (uiCallback mPi s req).1
  | .update t => (update lib svd s t).map Prod.fst

/-- A sequence of events from `s`; `none` once one of them fails. -/
def Plugin.run (lib : Reflexxes K) (svd : SVD K) (mPi : K) :
    Plugin K ndof → List (Event K ndof) → Option (Plugin K ndof)
  | s, [] => some s
  | s, e :: es => (s.next lib svd mPi e).bind fun s' => s'.run lib svd mPi es

def Event.request? : Event K ndof → Option (Request K)
  | .uiCallback req => some req
  | .update _ => none

/-- The states reachable from `init` by a sequence of events. -/
inductive Reachable (lib : Reflexxes K) (svd : SVD K) (mPi : K) : Plugin K ndof → Prop
  | init : Reachable lib svd mPi (init mPi ndof)
  | next {s s' : Plugin K ndof} (e : Event K ndof) :
      Reachable lib svd mPi s → s.next lib svd mPi e = some s' → Reachable lib svd mPi s'

theorem Reachable.run {lib : Reflexxes K} {svd : SVD K} {mPi : K} {s s' : Plugin K ndof}
    {es : List (Event K ndof)} (hs : Reachable lib svd mPi s) (h : s.run lib svd mPi es = some s') :
    Reachable lib svd mPi s' := by
  induction es generalizing s with
  | nil => cases h; exact hs
  | cons e es ih =>
    obtain ⟨s₁, h₁, h⟩ := Option.bind_eq_some.mp h
    exact ih (.next e hs h₁) h

theorem Plugin.run_append (lib : Reflexxes K) (svd : SVD K) (mPi : K) (s : Plugin K ndof)
    (es es' : List (Event K ndof)) :
    s.run lib svd mPi (es ++ es') = (s.run lib svd mPi es).bind (·.run lib svd mPi es') := by
  induction es generalizing s with
  | nil => rfl
  | cons e es ih =>
    rw [List.cons_append, Plugin.run, Plugin.run, Option.bind_assoc]
    exact congrArg _ (funext ih)

end Field

end WholeBodyControl.TaskPostureOTG
