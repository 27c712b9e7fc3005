import WholeBodyControl.TaskPostureOTG.Plugin

/-! The invariant of the reachable states of `TaskPostureOTGPlugin`: every buffer, cursor and
`out.tau` keeps the size the code requires, so that no tick fails a sanity check, trips an
Eigen assertion or reads past an array. -/
namespace WholeBodyControl.TaskPostureOTG
open Eigen TaskPosture

variable {K : Type} {ndof : ℕ}

/-- The size the sanity checks require of the vector a request names. -/
def Field.size (ndof : ℕ) : Field → ℕ
  | .controlPoint => 3
  | .goal l | .kp l | .kd l => l.size ndof

namespace UiToCtrlS

theorem wellSized_updateLevel {u : UiToCtrlS K} (h : u.WellSized ndof) {l : Level}
    {f : LevelS K → LevelS K} (hf : (f (u.level l)).WellSized (l.size ndof)) :
    (u.updateLevel l f).WellSized ndof := by
  refine ⟨h.1, fun l' => ?_⟩
  rcases eq_or_ne l' l with rfl | hne
  · simpa using hf
  · simpa [hne] using h.2 l'

theorem wellSized_set {u : UiToCtrlS K} (h : u.WellSized ndof) (f : Field) (v : DVec K)
    (hv : v.rows = f.size ndof) : (u.set f v).WellSized ndof := by
  cases f with
  | controlPoint => exact ⟨hv, h.2⟩
  | goal l =>
    obtain ⟨-, h2, h3, h4, h5⟩ := h.2 l
    exact wellSized_updateLevel h ⟨hv, h2, h3, h4, h5⟩
  | kp l =>
    obtain ⟨h1, h2, h3, -, h5⟩ := h.2 l
    exact wellSized_updateLevel h ⟨h1, h2, h3, hv, h5⟩
  | kd l =>
    obtain ⟨h1, h2, h3, h4, -⟩ := h.2 l
    exact wellSized_updateLevel h ⟨h1, h2, h3, h4, hv⟩

end UiToCtrlS

theorem handling_set_size {mPi : K} [Neg K] [Mul K] [OfNat K 0] [OfNat K 1] [OfNat K 2]
    [OfNat K 63] [OfNat K 1000] {m : Mode} {c : SetCase} (h : handling ndof mPi m = .set c) :
    c.size = c.field.size ndof := by
  cases m <;> simp only [handling, Handling.set.injEq, reduceCtorEq] at h <;> subst h <;> rfl

theorem SetCase.wellSized_run {c : SetCase} (hc : c.size = c.field.size ndof)
    {out : UiToCtrlS K} (h : out.WellSized ndof) (value : List K) :
    (c.run out value).1.WellSized ndof := by
  unfold SetCase.run
  split_ifs with he hl
  · exact h
  · have hs := UiToCtrlS.wellSized_set h c.field (.ofList value) (by simpa [hc] using hl)
    cases c.marksGoal
    · exact hs
    · exact UiToCtrlS.wellSized_setGoalChanged hs _ _
  · exact h

/-! ### The invariant -/

/-- What every reachable state keeps: well-sized buffers, cursors and `out.tau`. -/
structure Plugin.WellSized (s : Plugin K ndof) : Prop where
  buffer : ∀ b, (s.uiToCtrlData b).WellSized ndof
  cursor : ∀ l, (s.cursor l).WellSized (l.size ndof)
  tau : ∀ b, (s.tau b).rows = ndof

theorem Plugin.WellSized.typed {s : Plugin K ndof} (h : s.WellSized) :
    ∃ (cfg : Config K ndof) (ct : Cursor K 3) (cq : Cursor K ndof),
      s.cleanBuffer = cfg.toUiToCtrlS ∧ s.cursor = cursors ct cq := by
  obtain ⟨cfg, hc⟩ := Config.exists_toUiToCtrlS (h.buffer (clean s.uiToCtrlTick))
  obtain ⟨ct, ht⟩ := Cursor.exists_toOTGCursor (h.cursor .TASK)
  obtain ⟨cq, hq⟩ := Cursor.exists_toOTGCursor (h.cursor .POSTURE)
  exact ⟨cfg, ct, cq, hc.symm, funext fun l => by cases l; exacts [ht.symm, hq.symm]⟩

section Field
variable [LinearOrderedField K]

@[simp] theorem otgOf_dof (l : Level) : (otgOf ndof l : TypeIOTG K).dof = l.size ndof := by
  cases l <;> rfl

theorem wellSized_init (mPi : K) (ndof : ℕ) : (init mPi ndof).WellSized :=
  ⟨fun _ => show (initialUiToCtrl mPi ndof).WellSized ndof by
    rw [initialUiToCtrl_eq]; exact Config.wellSized _,
    fun l => by cases l <;> exact OTGCursor.wellSized_init _, fun _ => rfl⟩

theorem wellSized_uiCallback {s : Plugin K ndof} (h : s.WellSized) (mPi : K) (req : Request K) :
    (uiCallback mPi s req).1.WellSized := by
  unfold uiCallback
  split
  · next c hc =>
    refine { h with buffer := fun b => ?_ }
    rcases eq_or_ne b (dirty s.uiToCtrlTick) with rfl | hb
    · simpa [Plugin.setRequest] using SetCase.wellSized_run (handling_set_size hc)
        (h.buffer (clean s.uiToCtrlTick)) req.value
    · simpa [Plugin.setRequest, hb] using h.buffer b
  · exact h
  · exact h

theorem update_eq_of_step (lib : Reflexxes K) (svd : SVD K) {s : Plugin K ndof}
    {t : TickInput K ndof} {r : StepResult K} {x : Fin ndof → K}
    (hr : stepTaskPosture lib svd ⟨t.dyn, t.joints⟩ s.cleanBuffer s.cursor = some r)
    (hx : r.outcome.tau (s.tau (dirty s.ctrlToUiTick)) = ⟨ndof, x⟩) :
    update lib svd s t = some (if r.outcome.ok t.fallOff then (s.afterTick r ⟨ndof, x⟩, x)
      else (s.afterTick r ⟨ndof, 0⟩, 0)) := by
  simp only [update, hr, hx, Option.bind_eq_bind, Option.some_bind, commandEfforts?_mk]
  split <;> rfl

section Tick
variable (lib : Reflexxes K) (svd : SVD K)

/-- A tick from `s` is safe: checks pass, arrays fit, no assertion trips, and it completes. -/
structure SafeTick (s : Plugin K ndof) (t : TickInput K ndof) : Prop where
  checks : firstFailure (sanityChecks ndof s.cleanBuffer) = none
  generator : ∀ l, (s.cursor l).WellSized (otgOf ndof l : TypeIOTG K).dof ∧
    (s.cleanBuffer.level l).WellSized (otgOf ndof l : TypeIOTG K).dof
  typed : ∃ (cfg : Config K ndof) (ct : Cursor K 3) (cq : Cursor K ndof),
    s.cleanBuffer = cfg.toUiToCtrlS ∧ s.cursor = cursors ct cq ∧
    stepTaskPosture lib svd ⟨t.dyn, t.joints⟩ s.cleanBuffer s.cursor =
      some (stepTyped svd ⟨t.dyn, t.joints⟩ lib cfg ct cq)
  outTau : ∀ r, stepTaskPosture lib svd ⟨t.dyn, t.joints⟩ s.cleanBuffer s.cursor = some r →
    (r.outcome.tau (s.tau (dirty s.ctrlToUiTick))).rows = ndof
  completes : (update lib svd s t).isSome

theorem Plugin.WellSized.step {s : Plugin K ndof} (h : s.WellSized) (t : TickInput K ndof) :
    ∃ r, stepTaskPosture lib svd ⟨t.dyn, t.joints⟩ s.cleanBuffer s.cursor = some r ∧
      (r.outcome.tau (s.tau (dirty s.ctrlToUiTick))).rows = ndof ∧
      ∀ tau, tau.rows = ndof → (s.afterTick r tau).WellSized := by
  obtain ⟨cfg, ct, cq, hc, hq⟩ := h.typed
  obtain ⟨cfg', ct', cq', hi, hcur, htau⟩ :=
    stepTyped_typed svd ⟨t.dyn, t.joints⟩ lib cfg ct cq
  refine ⟨_, by rw [hc, hq]; exact stepTaskPosture_toUiToCtrlS _ _ _ _ _ _, ?_,
    fun tau hr => ?_⟩
  · revert htau
    cases (stepTyped svd ⟨t.dyn, t.joints⟩ lib cfg ct cq).outcome
    all_goals intro htau
    exacts [h.tau _, h.tau _, htau _ rfl]
  · refine ⟨fun b => ?_, fun l => ?_, fun b => ?_⟩
    · rcases eq_or_ne b (clean s.uiToCtrlTick) with rfl | hb
      · simpa [Plugin.afterTick, hi] using cfg'.wellSized
      · simpa [Plugin.afterTick, hb] using h.buffer b
    · simp only [Plugin.afterTick, hcur]
      cases l
      exacts [Cursor.wellSized_toOTGCursor ct', Cursor.wellSized_toOTGCursor cq']
    · rcases eq_or_ne b (dirty s.ctrlToUiTick) with rfl | hb
      · simpa [Plugin.afterTick] using hr
      · simpa [Plugin.afterTick, hb] using h.tau b

theorem Plugin.WellSized.safeTick {s : Plugin K ndof} (h : s.WellSized) (t : TickInput K ndof) :
    SafeTick lib svd s t := by
  obtain ⟨r, hr, hrows, -⟩ := h.step lib svd t
  obtain ⟨x, hx⟩ := DVec.exists_eq_mk hrows
  obtain ⟨cfg, ct, cq, hc, hq⟩ := h.typed
  refine ⟨firstFailure_sanityChecks.mpr (h.buffer _), fun l => ?_,
    ⟨cfg, ct, cq, hc, hq, by rw [hc, hq]; exact stepTaskPosture_toUiToCtrlS _ _ _ _ _ _⟩,
    fun r' hr' => by rw [hr] at hr'; cases hr'; exact hrows, ?_⟩
  · rw [otgOf_dof]
    exact ⟨h.cursor l, (h.buffer _).2 l⟩
  · rw [update_eq_of_step lib svd hr hx]
    rfl

end Tick

/-- Every event keeps a state well-sized. -/
theorem Plugin.WellSized.next {lib : Reflexxes K} {svd : SVD K} {mPi : K} {s s' : Plugin K ndof}
    (h : s.WellSized) {e : Event K ndof} (hnext : s.next lib svd mPi e = some s') :
    s'.WellSized := by
  cases e with
  | uiCallback req =>
    cases hnext
    exact wellSized_uiCallback h mPi req
  | update t =>
    obtain ⟨r, hr, hrows, hw⟩ := h.step lib svd t
    obtain ⟨x, hx⟩ := DVec.exists_eq_mk hrows
    simp only [Plugin.next, update_eq_of_step lib svd hr hx] at hnext
    split at hnext <;> cases hnext <;> exact hw _ rfl

theorem Reachable.wellSized {lib : Reflexxes K} {svd : SVD K} {mPi : K} {s : Plugin K ndof}
    (hs : Reachable lib svd mPi s) : s.WellSized := by
  induction hs with
  | init => exact wellSized_init mPi ndof
  | next _ _ hnext ih => exact ih.next hnext

/-- From a well-sized state every run completes. -/
theorem Plugin.WellSized.run_exists (lib : Reflexxes K) (svd : SVD K) (mPi : K)
    {s : Plugin K ndof} (h : s.WellSized) (es : List (Event K ndof)) :
    ∃ s', s.run lib svd mPi es = some s' := by
  induction es generalizing s with
  | nil => exact ⟨s, rfl⟩
  | cons e es ih =>
    obtain ⟨s₁, h₁⟩ : ∃ s₁, s.next lib svd mPi e = some s₁ := by
      cases e with
      | uiCallback req => exact ⟨_, rfl⟩
      | update t =>
        obtain ⟨p, hp⟩ := Option.isSome_iff_exists.mp (h.safeTick lib svd t).completes
        exact ⟨p.1, by rw [Plugin.next, hp]; rfl⟩
    obtain ⟨s', hs'⟩ := ih (h.next h₁)
    exact ⟨s', by rw [Plugin.run, h₁, Option.some_bind, hs']⟩

def jointsStill : JointState ℝ 1 := ⟨0, 0, 0⟩

def dynGravity : Dynamics ℝ 1 := ⟨fun _ _ _ => 0, fun _ _ _ => 0, 1, 1⟩

/-- Every reachable state is well-sized, and every tick from it is safe. -/
theorem reachable_wellSized {lib : Reflexxes K} {svd : SVD K} {mPi : K} {s : Plugin K ndof}
    (hs : Reachable lib svd mPi s) : s.WellSized ∧ ∀ t, SafeTick lib svd s t :=
  ⟨hs.wellSized, fun t => hs.wellSized.safeTick lib svd t⟩

theorem reachable_wellSized_after_requests :
    ∃ s, (init (3 : ℝ) 1).run reflexxesHold svdZero 3
        [.uiCallback ⟨.SET_TASK_KP, [4, 5, 6]⟩, .uiCallback ⟨.SET_TASK_KD, [1]⟩,
          .update ⟨jointsStill, dynGravity, true⟩] = some s ∧
      Reachable reflexxesHold svdZero (3 : ℝ) s ∧
        s.WellSized ∧ ∀ t, SafeTick reflexxesHold svdZero s t := by
  obtain ⟨s, hs⟩ := (wellSized_init (3 : ℝ) 1).run_exists reflexxesHold svdZero 3
    [.uiCallback ⟨.SET_TASK_KP, [4, 5, 6]⟩, .uiCallback ⟨.SET_TASK_KD, [1]⟩,
      .update ⟨jointsStill, dynGravity, true⟩]
  have hr := Reachable.init.run hs
  exact ⟨s, hs, hr, reachable_wellSized hr⟩

/-! ### Commanded efforts -/

section Efforts
variable {lib : Reflexxes K} {svd : SVD K} {s : Plugin K ndof} {t : TickInput K ndof}
  {r : StepResult K}

theorem update_efforts_of_fellOff {x : Fin ndof → K}
    (hr : stepTaskPosture lib svd ⟨t.dyn, t.joints⟩ s.cleanBuffer s.cursor = some r)
    (hf : r.outcome = .fellOff ⟨ndof, x⟩) :
    (update lib svd s t).map Prod.snd = some (if t.fallOff then x else 0) := by
  rw [update_eq_of_step lib svd hr (by rw [hf]; rfl), hf]
  cases t.fallOff <;> rfl

theorem update_efforts_of_return_false (h : s.WellSized)
    (hr : stepTaskPosture lib svd ⟨t.dyn, t.joints⟩ s.cleanBuffer s.cursor = some r)
    (hf : ∀ tau, r.outcome ≠ .fellOff tau) :
    (update lib svd s t).map Prod.snd = some 0 := by
  have hok : r.outcome.ok t.fallOff = false := by
    cases ho : r.outcome
    exacts [rfl, rfl, absurd ho (hf _)]
  obtain ⟨x, hx⟩ := DVec.exists_eq_mk (h.safeTick lib svd t |>.outTau r hr)
  rw [update_eq_of_step lib svd hr hx, hok]
  rfl

end Efforts

end Field

/-- The first tick after `init` commands zero or the gravity torque, by the missing `return`. -/
theorem update_init_efforts_unspecified :
    ∃ r, stepTaskPosture reflexxesHold svdZero ⟨dynGravity, jointsStill⟩
        (init (3 : ℝ) 1).cleanBuffer (init (3 : ℝ) 1).cursor = some r ∧
      r.outcome = .fellOff ⟨1, 1⟩ ∧
      (update reflexxesHold svdZero (init 3 1) ⟨jointsStill, dynGravity, false⟩).map Prod.snd =
        some 0 ∧
      (update reflexxesHold svdZero (init 3 1) ⟨jointsStill, dynGravity, true⟩).map Prod.snd =
        some 1 := by
  have hr : stepTaskPosture reflexxesHold svdZero ⟨dynGravity, jointsStill⟩
      (init (3 : ℝ) 1).cleanBuffer (init (3 : ℝ) 1).cursor =
      some (stepTyped svdZero ⟨dynGravity, jointsStill⟩ reflexxesHold (initConfig 3 1)
        (Cursor.init 3) (Cursor.init 1)) := by
    rw [show (init (3 : ℝ) 1).cleanBuffer = (initConfig 3 1).toUiToCtrlS from
      initialUiToCtrl_eq 3 1, init_cursor (3 : ℝ) 1]
    exact stepTaskPosture_toUiToCtrlS _ _ _ _ _ _
  have hf : (stepTyped svdZero ⟨dynGravity, jointsStill⟩ reflexxesHold (initConfig 3 1)
      (Cursor.init 3) (Cursor.init 1)).outcome = .fellOff ⟨1, 1⟩ := by
    simp [stepTyped, Cursor.levelStep, Cursor.next, reflexxesHold, initConfig, jointsStill,
      dynGravity, tauTask, tauPosture]
  exact ⟨_, hr, hf, update_efforts_of_fellOff hr hf, update_efforts_of_fellOff hr hf⟩

end WholeBodyControl.TaskPostureOTG
