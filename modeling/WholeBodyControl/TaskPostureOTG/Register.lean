import WholeBodyControl.TaskPostureOTG.Plugin

/-! The double buffer of `TaskPostureOTGPlugin` as one configuration register. Run one event
at a time, the plugin refines a machine with a single buffer, from any state and so across
the wrap-around of `ui_to_ctrl_tick_`. That buffer holds `init`'s defaults updated by the
accepted `SET` requests, and its `goal_changed` flags mark the levels that no tick has
reached since `init` or since their last accepted goal request. -/
namespace WholeBodyControl.TaskPostureOTG
open Eigen TaskPosture

variable {K : Type} {ndof : ℕ}

/-! ### Values and flags of a buffer -/

namespace UiToCtrlS

def values (u : UiToCtrlS K) : UiToCtrlS K :=
  ⟨u.controlPoint, fun l => { u.level l with goalChanged := false }⟩

/-- The buffer after a call of `stepTaskPosture` reaching `reach`: their flags cleared. -/
def afterStep (u : UiToCtrlS K) (reach : Level → Bool) : UiToCtrlS K :=
  ⟨u.controlPoint,
    fun l => { u.level l with goalChanged := (u.level l).goalChanged && !reach l }⟩

@[simp] theorem values_afterStep (u : UiToCtrlS K) (reach : Level → Bool) :
    (u.afterStep reach).values = u.values := rfl

@[simp] theorem afterStep_goalChanged (u : UiToCtrlS K) (reach : Level → Bool) (l : Level) :
    ((u.afterStep reach).level l).goalChanged = ((u.level l).goalChanged && !reach l) := rfl

theorem afterStep_false (u : UiToCtrlS K) : u.afterStep (fun _ => false) = u := by
  ext l <;> simp [afterStep]

theorem afterStep_afterStep (u : UiToCtrlS K) (p q : Level → Bool) :
    (u.afterStep p).afterStep q = u.afterStep fun l => p l || q l := by
  ext l <;> simp [afterStep, Bool.and_assoc]

theorem clearGoalChanged_eq (u : UiToCtrlS K) (l : Level) :
    clearGoalChanged u l = u.afterStep fun l' => l' = l := by
  refine UiToCtrlS.ext ?_ (funext fun l' => ?_)
  · unfold clearGoalChanged; split <;> rfl
  · unfold clearGoalChanged
    by_cases h : l' = l
    · subst h
      split <;> ext <;> simp_all [afterStep]
    · split <;> simp [afterStep, h]

theorem values_set (u : UiToCtrlS K) (f : Field) (v : DVec K) :
    (u.set f v).values = u.values.set f v := by
  cases f with
  | controlPoint => rfl
  | goal l | kp l | kd l =>
    refine UiToCtrlS.ext rfl (funext fun l' => ?_)
    by_cases h : l' = l <;> simp [set, values, h]

@[simp] theorem set_goalChanged (u : UiToCtrlS K) (f : Field) (v : DVec K) (l : Level) :
    ((u.set f v).level l).goalChanged = (u.level l).goalChanged := by
  cases f <;> simp [set, apply_ite]

@[simp] theorem values_setGoalChanged (u : UiToCtrlS K) (l : Level) (b : Bool) :
    (u.setGoalChanged l b).values = u.values := by
  ext l' <;> simp [values, apply_ite]

end UiToCtrlS

/-- The levels a call of `stepTaskPosture` reaches before it returns. -/
def Outcome.reaches : Outcome K → Level → Bool
  | .rejected _ _ => fun _ => false
  | .otgFailed .TASK _ => fun l => l = .TASK
  | .otgFailed .POSTURE _ => fun _ => true
  | .fellOff _ => fun _ => true

/-! ### The requests the register takes -/

/-- The case of an accepted `SET` request: its value is not empty and of the required length. -/
def acceptedSet? [Neg K] [Mul K] [OfNat K 0] [OfNat K 1] [OfNat K 2] [OfNat K 63]
    [OfNat K 1000] (ndof : ℕ) (mPi : K) (req : Request K) : Option SetCase :=
  match handling ndof mPi req.mode with
  | .set c => if req.value.isEmpty = false ∧ req.value.length = c.size then some c else none
  | _ => none

section Accepted
variable [Neg K] [Mul K] [OfNat K 0] [OfNat K 1] [OfNat K 2] [OfNat K 63] [OfNat K 1000]

/-- One request on the single register: an accepted `SET` writes its value. -/
def registerRequest (ndof : ℕ) (mPi : K) (u : UiToCtrlS K) (req : Request K) : UiToCtrlS K :=
  match acceptedSet? ndof mPi req with
  | some c => u.set c.field (.ofList req.value)
  | none => u

def acceptedGoal (ndof : ℕ) (mPi : K) (req : Request K) (l : Level) : Bool :=
  match acceptedSet? ndof mPi req with
  | some c => c.marksGoal = some l
  | none => false

theorem SetCase.run_register {m : Mode} {c : SetCase} (mPi : K) (hc : handling ndof mPi m = .set c)
    (u : UiToCtrlS K) (value : List K) :
    (c.run u value).1.values = (registerRequest ndof mPi u ⟨m, value⟩).values ∧
      ∀ l, ((c.run u value).1.level l).goalChanged =
        (acceptedGoal ndof mPi ⟨m, value⟩ l || (u.level l).goalChanged) := by
  unfold SetCase.run registerRequest acceptedGoal acceptedSet?
  simp only [hc]
  by_cases he : value.isEmpty
  · simp [he]
  · by_cases hl : value.length = c.size
    · cases hm : c.marksGoal <;>
        simp [he, hl, hm, UiToCtrlS.values_set, UiToCtrlS.setGoalChanged_level, apply_ite, eq_comm]
    · simp [he, hl]

theorem registerRequest_values {u u' : UiToCtrlS K} (h : u.values = u'.values) (mPi : K)
    (req : Request K) :
    (registerRequest ndof mPi u req).values = (registerRequest ndof mPi u' req).values := by
  unfold registerRequest
  split
  · rw [UiToCtrlS.values_set, UiToCtrlS.values_set, h]
  · exact h

theorem registerRequest_get {f : Field} (mPi : K) (u : UiToCtrlS K) {req : Request K}
    (hreq : ∀ c, acceptedSet? ndof mPi req = some c → c.field ≠ f) :
    (registerRequest ndof mPi u req).get f = u.get f := by
  unfold registerRequest
  split
  · next c hc => exact u.get_set_of_ne (hreq c hc) _
  · rfl

end Accepted

/-! ### The single register -/

/-- The plugin with one configuration register in place of the double buffer. -/
structure Register (K : Type) (ndof : ℕ) where
  reg : UiToCtrlS K
  cursor : Level → OTGCursor K
  ctrlToUiTick : BitVec 64
  tau : Fin 2 → DVec K

/-- The register a plugin state implements: its clean buffer. -/
def Plugin.toRegister (s : Plugin K ndof) : Register K ndof :=
  ⟨s.cleanBuffer, s.cursor, s.ctrlToUiTick, s.tau⟩

section Field
variable [LinearOrderedField K]

namespace Register

/-- `uiCallback` on the register: a `SET` request rewrites it in place. -/
def uiCallback (mPi : K) (g : Register K ndof) (req : Request K) : Register K ndof × Response K :=
  match handling ndof mPi req.mode with
  | .set c => ({ g with reg := (c.run g.reg req.value).1 }, (c.run g.reg req.value).2)
  | .get c => (g, Plugin.getResponse c g.reg)
  | .invalid code => (g, { ok := false, errstr := "invalid mode: " ++ toString code })

/-- `update` on the register. -/
def update (lib : Reflexxes K) (svd : SVD K) (g : Register K ndof) (t : TickInput K ndof) :
    Option (Register K ndof × (Fin ndof → K)) := do
  let r ← stepTaskPosture lib svd ⟨t.dyn, t.joints⟩ g.reg g.cursor
  let out ← commandEfforts? ndof (r.outcome.ok t.fallOff)
    (r.outcome.tau (g.tau (dirty g.ctrlToUiTick)))
  some (⟨r.input, r.cursor, g.ctrlToUiTick + 1,
      Function.update g.tau (dirty g.ctrlToUiTick) out.1⟩,
    out.2)

def next (lib : Reflexxes K) (svd : SVD K) (mPi : K) (g : Register K ndof) :
    Event K ndof → Option (Register K ndof)
  | .uiCallback req => some (g.uiCallback mPi req).1
  | .update t => (g.update lib svd t).map Prod.fst

def run (lib : Reflexxes K) (svd : SVD K) (mPi : K) :
    Register K ndof → List (Event K ndof) → Option (Register K ndof)
  | g, [] => some g
  | g, e :: es => (g.next lib svd mPi e).bind fun g' => g'.run lib svd mPi es

/-- One event on `l`'s pending re-initialisation: set by its goal, consumed by a tick at `l`. -/
def mark (lib : Reflexxes K) (svd : SVD K) (mPi : K) (g : Register K ndof) (l : Level)
    (p : Bool) : Event K ndof → Bool
  | .uiCallback req => acceptedGoal ndof mPi req l || p
  | .update t => match stepTaskPosture lib svd ⟨t.dyn, t.joints⟩ g.reg g.cursor with
    | some r => p && !r.outcome.reaches l
    | none => p

/-- Level `l`'s pending re-initialisation after a sequence of events. -/
def pending (lib : Reflexxes K) (svd : SVD K) (mPi : K) (l : Level) :
    Bool → Register K ndof → List (Event K ndof) → Bool
  | p, _, [] => p
  | p, g, e :: es => match g.next lib svd mPi e with
    | some g' => g'.pending lib svd mPi l (g.mark lib svd mPi l p e) es
    | none => p

end Register

/-! ### Ticks clear exactly the flags of the levels they reach -/

section Step
variable {lib : Reflexxes K} {svd : SVD K} {model : Model K ndof} {inp : UiToCtrlS K}
  {cursor : Level → OTGCursor K} {r : StepResult K}

theorem postureLevel?_input {t : TaskTerms K} {tauTask : DVec K}
    (h : postureLevel? lib svd model t tauTask inp cursor = some r) :
    r.input = clearGoalChanged inp .POSTURE ∧ r.outcome.reaches = fun _ => true := by
  simp only [postureLevel?, Option.bind_eq_bind, Option.bind_eq_some] at h
  obtain ⟨_, -, rc, -, h⟩ := h
  by_cases hlt : rc.1 < 0
  · rw [if_pos hlt] at h
    cases h; exact ⟨rfl, rfl⟩
  · rw [if_neg hlt, Option.bind_eq_some] at h
    obtain ⟨_, -, h⟩ := h
    rw [Option.bind_eq_some] at h
    obtain ⟨_, -, h⟩ := h
    cases h; exact ⟨rfl, rfl⟩

/-- `stepTaskPosture` changes its buffer only by clearing the flags of the levels it reaches. -/
theorem stepTaskPosture_input (h : stepTaskPosture lib svd model inp cursor = some r) :
    r.input = inp.afterStep r.outcome.reaches := by
  unfold stepTaskPosture at h
  split at h
  · cases h; exact (UiToCtrlS.afterStep_false inp).symm
  · simp only [Option.bind_eq_bind, Option.bind_eq_some] at h
    obtain ⟨_, -, rc, -, h⟩ := h
    by_cases hlt : rc.1 < 0
    · rw [if_pos hlt] at h
      cases h; exact UiToCtrlS.clearGoalChanged_eq inp .TASK
    · rw [if_neg hlt, Option.bind_eq_some] at h
      obtain ⟨_, -, h⟩ := h
      obtain ⟨h1, h2⟩ := postureLevel?_input h
      rw [h1, h2, UiToCtrlS.clearGoalChanged_eq, UiToCtrlS.clearGoalChanged_eq,
        UiToCtrlS.afterStep_afterStep]
      congr
      funext l
      cases l <;> rfl

end Step

/-! ### The refinement -/

section Refinement
variable (lib : Reflexxes K) (svd : SVD K) (mPi : K)

theorem uiCallback_toRegister (s : Plugin K ndof) (req : Request K) :
    ((uiCallback mPi s req).1.toRegister, (uiCallback mPi s req).2) =
      s.toRegister.uiCallback mPi req := by
  unfold uiCallback Register.uiCallback
  cases handling ndof mPi req.mode with
  | set c =>
    simp only [Plugin.setRequest, Plugin.toRegister, Plugin.cleanBuffer, ← dirty_eq_clean_succ,
      Function.update_same, UiToCtrlS.assign_eq]
  | get c => rfl
  | invalid code => rfl

theorem update_toRegister (s : Plugin K ndof) (t : TickInput K ndof) :
    (update lib svd s t).map (fun p => (p.1.toRegister, p.2)) = s.toRegister.update lib svd t := by
  simp only [update, Register.update, Option.bind_eq_bind, Option.map_bind]
  congr 1
  funext r
  simp only [Function.comp, Option.map_bind, Option.map_some', Plugin.toRegister, Plugin.afterTick,
    Plugin.cleanBuffer, Function.update_same]

theorem next_toRegister (s : Plugin K ndof) (e : Event K ndof) :
    (s.next lib svd mPi e).map Plugin.toRegister = s.toRegister.next lib svd mPi e := by
  cases e with
  | uiCallback req =>
    exact congrArg (some ∘ Prod.fst) (uiCallback_toRegister mPi s req)
  | update t =>
    rw [Plugin.next, Register.next, ← update_toRegister, Option.map_map, Option.map_map]
    rfl

/-- From any state a run of the plugin is a run of the single register. -/
theorem run_toRegister (s : Plugin K ndof) (es : List (Event K ndof)) :
    (s.run lib svd mPi es).map Plugin.toRegister = s.toRegister.run lib svd mPi es := by
  induction es generalizing s with
  | nil => rfl
  | cons e es ih =>
    rw [Plugin.run, Register.run, ← next_toRegister]
    cases s.next lib svd mPi e with
    | none => rfl
    | some s' => exact ih s'

end Refinement

/-! ### What the register holds -/

section Register
variable {lib : Reflexxes K} {svd : SVD K} {mPi : K}

theorem Register.next_reg {g g' : Register K ndof} {e : Event K ndof}
    (h : g.next lib svd mPi e = some g') :
    (∀ u, u.values = g.reg.values → g'.reg.values =
      ((e.request?.toList).foldl (registerRequest ndof mPi) u).values) ∧
    ∀ l, (g'.reg.level l).goalChanged = g.mark lib svd mPi l (g.reg.level l).goalChanged e := by
  cases e with
  | uiCallback req =>
    cases h
    simp only [Register.uiCallback, Event.request?, Option.toList_some, List.foldl_cons,
      List.foldl_nil, Register.mark]
    split
    · next c hc =>
      obtain ⟨hv, hf⟩ := SetCase.run_register mPi hc g.reg req.value
      exact ⟨fun u hu => hv.trans (registerRequest_values hu.symm mPi _), hf⟩
    all_goals
      next hc =>
      refine ⟨fun u hu => ?_, fun l => ?_⟩
      · simp only [registerRequest, acceptedSet?, hc]; exact hu.symm
      · simp [acceptedGoal, acceptedSet?, hc]
  | update t =>
    obtain ⟨⟨g₁, _⟩, hu, rfl⟩ := Option.map_eq_some'.mp h
    simp only [Register.update, Option.bind_eq_bind, Option.bind_eq_some] at hu
    obtain ⟨r, hr, out, -, hg⟩ := hu
    cases hg
    have hi := stepTaskPosture_input hr
    refine ⟨fun u hu => by simpa [Event.request?, hi] using hu.symm, fun l => ?_⟩
    simp [Register.mark, hr, hi]

/-- Along a run of the register, values follow the accepted `SET`s and flags the pending marks. -/
theorem Register.run_reg {g g' : Register K ndof} {es : List (Event K ndof)}
    (h : g.run lib svd mPi es = some g') :
    (∀ u, u.values = g.reg.values → g'.reg.values =
      ((es.filterMap Event.request?).foldl (registerRequest ndof mPi) u).values) ∧
    ∀ l, (g'.reg.level l).goalChanged =
      g.pending lib svd mPi l (g.reg.level l).goalChanged es := by
  induction es generalizing g with
  | nil => cases h; exact ⟨fun u hu => hu.symm, fun _ => rfl⟩
  | cons e es ih =>
    obtain ⟨g₁, h₁, h⟩ := Option.bind_eq_some.mp h
    obtain ⟨hv, hf⟩ := Register.next_reg h₁
    obtain ⟨hv', hf'⟩ := ih h
    refine ⟨fun u hu => ?_, fun l => ?_⟩
    · rw [hv' _ (hv u hu).symm]
      cases e <;> rfl
    · rw [hf' l, hf l, Register.pending, h₁]

end Register

end Field

end WholeBodyControl.TaskPostureOTG
