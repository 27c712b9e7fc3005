import WholeBodyControl.TaskPostureOTG.Invariant
import WholeBodyControl.TaskPostureOTG.Interleave

/-! Runs of `TaskPostureOTGPlugin`: what its two ticks count; that between goal changes the
trajectory generators run open-loop, so that what the robot measures reaches the cursors only
through a tick that re-initialises a level; that no run changes what they select; and that a
`GET` request reads back the last accepted `SET` of its vector. -/
namespace WholeBodyControl.TaskPostureOTG
open Eigen TaskPosture

variable {K : Type} {ndof : ℕ}

/-- No level of a buffer has a goal change pending. -/
def UiToCtrlS.Settled (u : UiToCtrlS K) : Prop := ∀ l, (u.level l).goalChanged = false

theorem UiToCtrlS.afterStep_of_settled {u : UiToCtrlS K} (h : u.Settled) (reach : Level → Bool) :
    u.afterStep reach = u :=
  UiToCtrlS.ext rfl (funext fun l => by ext <;> simp [UiToCtrlS.afterStep, h l])

/-- Two states of the plugin that differ at most in `out.tau`. -/
structure Plugin.Agree (s s' : Plugin K ndof) : Prop where
  uiToCtrlTick : s.uiToCtrlTick = s'.uiToCtrlTick
  uiToCtrlData : s.uiToCtrlData = s'.uiToCtrlData
  cursor : s.cursor = s'.cursor
  ctrlToUiTick : s.ctrlToUiTick = s'.ctrlToUiTick

theorem Plugin.Agree.refl (s : Plugin K ndof) : s.Agree s := ⟨rfl, rfl, rfl, rfl⟩

theorem Plugin.Agree.cleanBuffer {s s' : Plugin K ndof} (h : s.Agree s') :
    s.cleanBuffer = s'.cleanBuffer := by
  rw [Plugin.cleanBuffer, Plugin.cleanBuffer, h.uiToCtrlTick, h.uiToCtrlData]

@[simp] theorem Plugin.cleanBuffer_afterTick (s : Plugin K ndof) (r : StepResult K)
    (tau : DVec K) : (s.afterTick r tau).cleanBuffer = r.input :=
  Function.update_same _ _ _

theorem Plugin.Agree.afterTick {s s' : Plugin K ndof} (h : s.Agree s') {r r' : StepResult K}
    (hi : r.input = r'.input) (hc : r.cursor = r'.cursor) (tau tau' : DVec K) :
    (s.afterTick r tau).Agree (s'.afterTick r' tau') :=
  ⟨h.uiToCtrlTick, by simp only [Plugin.afterTick, h.uiToCtrlTick, h.uiToCtrlData, hi], hc,
    by simp only [Plugin.afterTick, h.ctrlToUiTick]⟩

theorem Cursor.levelStep_of_not_goalChanged {d : ℕ} (lib : Reflexxes K) (cycleTime : K)
    {lv : LevelConfig K d} (h : lv.goalChanged = false) (c : Cursor K d)
    (curpos curvel : Fin d → K) :
    c.levelStep lib cycleTime lv curpos curvel =
      c.next lib cycleTime lv.maxvel lv.maxacc lv.goal := by
  simp [Cursor.levelStep, h]

theorem OTGCursor.next_selection {lib : Reflexxes K} {otg : TypeIOTG K} {c : OTGCursor K}
    {maxvel maxacc goal : DVec K} {r : ℤ × OTGCursor K}
    (h : c.next lib otg maxvel maxacc goal = some r) : r.2.selection = c.selection := by
  unfold OTGCursor.next at h
  iterate 8 obtain ⟨_, -, h⟩ := Option.bind_eq_some.mp h
  split at h <;> cases h <;> rfl

theorem levelStep?_selection {lib : Reflexxes K} {otg : TypeIOTG K} {lv : LevelS K}
    {c : OTGCursor K} {curpos curvel : DVec K} {r : ℤ × OTGCursor K}
    (h : levelStep? lib otg lv c curpos curvel = some r) : r.2.selection = c.selection := by
  unfold levelStep? at h
  rw [OTGCursor.next_selection h]
  split <;> rfl

theorem selection_update {cursor : Level → OTGCursor K} {l₀ : Level} {c : OTGCursor K}
    (hc : c.selection = (cursor l₀).selection) (l : Level) :
    (Function.update cursor l₀ c l).selection = (cursor l).selection := by
  by_cases hl : l = l₀
  · subst hl; rw [Function.update_same, hc]
  · rw [Function.update_noteq hl]

section Field
variable [LinearOrderedField K] (lib : Reflexxes K) (svd : SVD K) (mPi : K)

/-! ### The ticks count the events -/

/-- Whether an event runs a `SET_*` case, which ends with `++ui_to_ctrl_tick_` in every case. -/
def Event.isSet (ndof : ℕ) (mPi : K) : Event K ndof → Bool
  | .uiCallback req => match handling ndof mPi req.mode with
    | .set _ => true
    | _ => false
  | .update _ => false

def Event.isUpdate : Event K ndof → Bool
  | .uiCallback _ => false
  | .update _ => true

theorem update_fst {s s' : Plugin K ndof} {t : TickInput K ndof}
    (h : (update lib svd s t).map Prod.fst = some s') :
    ∃ r tau, stepTaskPosture lib svd ⟨t.dyn, t.joints⟩ s.cleanBuffer s.cursor = some r ∧
      s' = s.afterTick r tau := by
  obtain ⟨⟨s₁, _⟩, hu, rfl⟩ := Option.map_eq_some'.mp h
  simp only [update, Option.bind_eq_bind, Option.bind_eq_some] at hu
  obtain ⟨r, hr, out, -, hu⟩ := hu
  cases hu
  exact ⟨r, out.1, hr, rfl⟩

theorem Plugin.next_ticks {s s' : Plugin K ndof} {e : Event K ndof}
    (h : s.next lib svd mPi e = some s') :
    s'.uiToCtrlTick = s.uiToCtrlTick + (if e.isSet ndof mPi then 1 else 0) ∧
      s'.ctrlToUiTick = s.ctrlToUiTick + (if e.isUpdate then 1 else 0) := by
  cases e with
  | uiCallback req =>
    cases h
    unfold uiCallback
    split
    · next hc => simp [Event.isSet, Event.isUpdate, hc, Plugin.setRequest]
    all_goals next hc => simp [Event.isSet, Event.isUpdate, hc]
  | update t =>
    obtain ⟨r, tau, -, rfl⟩ := update_fst lib svd h
    simp [Event.isSet, Event.isUpdate, Plugin.afterTick]

theorem tick_add_count (t : BitVec 64) (b : Bool) (n : ℕ) :
    t + (if b then 1 else 0) + BitVec.ofNat 64 n =
      t + BitVec.ofNat 64 (n + if b then 1 else 0) := by
  rw [BitVec.ofNat_add, BitVec.add_assoc, BitVec.add_comm (BitVec.ofNat 64 n)]
  split <;> rfl

/-- Over any run `ui_to_ctrl_tick_` counts the `SET_*` requests and `ctrl_to_ui_tick_` the ticks. -/
theorem run_ticks {s s' : Plugin K ndof} {es : List (Event K ndof)}
    (h : s.run lib svd mPi es = some s') :
    s'.uiToCtrlTick = s.uiToCtrlTick + BitVec.ofNat 64 (es.countP (Event.isSet ndof mPi)) ∧
      s'.ctrlToUiTick = s.ctrlToUiTick + BitVec.ofNat 64 (es.countP Event.isUpdate) := by
  induction es generalizing s with
  | nil => cases h; simp
  | cons e es ih =>
    obtain ⟨s₁, h₁, h⟩ := Option.bind_eq_some.mp h
    obtain ⟨ha₁, hc₁⟩ := Plugin.next_ticks lib svd mPi h₁
    obtain ⟨ha, hc⟩ := ih h
    rw [ha, ha₁, hc, hc₁, List.countP_cons, List.countP_cons]
    exact ⟨tick_add_count .., tick_add_count ..⟩

theorem run_ticks_kp :
    let es : List (Event ℝ 1) :=
      [.uiCallback ⟨.SET_TASK_KP, [1]⟩, .update ⟨jointsStill, dynGravity, true⟩,
        .uiCallback ⟨.GET_TASK_KP, []⟩, .uiCallback ⟨.SET_TASK_KP, [1, 2, 3]⟩]
    ∃ s', (init (3 : ℝ) 1).run reflexxesHold svdZero 3 es = some s' ∧
      s'.uiToCtrlTick =
        (init (3 : ℝ) 1).uiToCtrlTick + BitVec.ofNat 64 (es.countP (Event.isSet 1 (3 : ℝ))) ∧
      s'.ctrlToUiTick =
        (init (3 : ℝ) 1).ctrlToUiTick + BitVec.ofNat 64 (es.countP Event.isUpdate) := by
  intro es
  obtain ⟨s', hs⟩ := (wellSized_init (3 : ℝ) 1).run_exists reflexxesHold svdZero 3 es
  exact ⟨s', hs, run_ticks reflexxesHold svdZero 3 hs⟩

/-! ### Between goal changes the generators run open-loop -/

theorem stepTyped_cursor_of_not_goalChanged (model : Model K ndof) {cfg : Config K ndof}
    (hT : cfg.task.goalChanged = false) (hP : cfg.posture.goalChanged = false)
    (ct : Cursor K 3) (cq : Cursor K ndof) :
    (stepTyped svd model lib cfg ct cq).cursor =
      let rt := ct.next lib 1e-3 cfg.task.maxvel cfg.task.maxacc cfg.task.goal
      if rt.1 < 0 then cursors rt.2 cq
      else cursors rt.2
        (cq.next lib 1e-3 cfg.posture.maxvel cfg.posture.maxacc cfg.posture.goal).2 := by
  simp only [stepTyped, Cursor.levelStep_of_not_goalChanged lib _ hT,
    Cursor.levelStep_of_not_goalChanged lib _ hP]
  split_ifs <;> rfl

theorem Plugin.WellSized.next_update {s : Plugin K ndof} (h : s.WellSized) (t : TickInput K ndof) :
    ∃ r tau, stepTaskPosture lib svd ⟨t.dyn, t.joints⟩ s.cleanBuffer s.cursor = some r ∧
      s.next lib svd mPi (.update t) = some (s.afterTick r tau) := by
  obtain ⟨r, hr, hrows, -⟩ := h.step lib svd t
  obtain ⟨x, hx⟩ := DVec.exists_eq_mk hrows
  refine ⟨r, if r.outcome.ok t.fallOff then ⟨ndof, x⟩ else ⟨ndof, 0⟩, hr, ?_⟩
  simp only [Plugin.next, update_eq_of_step lib svd hr hx]
  split <;> rfl

theorem Plugin.Agree.update {s₁ s₂ : Plugin K ndof} (h : s₁.Agree s₂)
    (h₁ : s₁.WellSized) (h₂ : s₂.WellSized) (hs : s₁.cleanBuffer.Settled)
    (t₁ t₂ : TickInput K ndof) :
    ∃ s₁' s₂', s₁.next lib svd mPi (.update t₁) = some s₁' ∧
      s₂.next lib svd mPi (.update t₂) = some s₂' ∧ s₁'.Agree s₂' ∧
      s₁'.cleanBuffer.Settled := by
  obtain ⟨cfg, ct, cq, hc, hq⟩ := h₁.typed
  obtain ⟨r₁, tau₁, hr₁, hn₁⟩ := h₁.next_update lib svd mPi t₁
  obtain ⟨r₂, tau₂, hr₂, hn₂⟩ := h₂.next_update lib svd mPi t₂
  rw [← h.cleanBuffer, ← h.cursor] at hr₂
  have hi₁ : r₁.input = s₁.cleanBuffer := by
    rw [stepTaskPosture_input hr₁, UiToCtrlS.afterStep_of_settled hs]
  have hi₂ : r₂.input = s₁.cleanBuffer := by
    rw [stepTaskPosture_input hr₂, UiToCtrlS.afterStep_of_settled hs]
  have hT : cfg.task.goalChanged = false := by simpa [hc] using hs .TASK
  have hP : cfg.posture.goalChanged = false := by simpa [hc] using hs .POSTURE
  rw [hc, hq, stepTaskPosture_toUiToCtrlS] at hr₁ hr₂
  have hcur : r₁.cursor = r₂.cursor := by
    rw [← Option.some.inj hr₁, ← Option.some.inj hr₂,
      stepTyped_cursor_of_not_goalChanged lib svd _ hT hP,
      stepTyped_cursor_of_not_goalChanged lib svd _ hT hP]
  exact ⟨_, _, hn₁, hn₂, h.afterTick (hi₁.trans hi₂.symm) hcur tau₁ tau₂,
    by rw [Plugin.cleanBuffer_afterTick, hi₁]; exact hs⟩

/-- Two events that only a tick's measurement can tell apart. -/
def Event.SameRequest : Event K ndof → Event K ndof → Prop
  | .uiCallback req, .uiCallback req' => req = req'
  | .update _, .update _ => True
  | _, _ => False

theorem Plugin.Agree.uiCallback {s₁ s₂ : Plugin K ndof} (h : s₁.Agree s₂)
    (req : Request K) :
    (uiCallback mPi s₁ req).1.Agree (uiCallback mPi s₂ req).1 := by
  obtain ⟨t, d, c, k, tau⟩ := s₁
  obtain ⟨t', d', c', k', tau'⟩ := s₂
  obtain ⟨ht, hd, hc, hk⟩ := h
  dsimp only at ht hd hc hk
  subst ht hd hc hk
  unfold TaskPostureOTG.uiCallback
  split <;> exact ⟨rfl, rfl, rfl, rfl⟩

theorem settled_uiCallback {s : Plugin K ndof} (hs : s.cleanBuffer.Settled) (req : Request K)
    (hreq : ∀ l, acceptedGoal ndof mPi req l = false) :
    (uiCallback mPi s req).1.cleanBuffer.Settled := by
  intro l
  obtain ⟨m, value⟩ := req
  unfold uiCallback
  split
  · next c hc =>
    simp only [Plugin.setRequest, Plugin.cleanBuffer, ← dirty_eq_clean_succ, Function.update_same,
      UiToCtrlS.assign_eq]
    rw [(SetCase.run_register mPi hc _ value).2 l, hreq l, Bool.false_or]
    exact hs l
  all_goals exact hs l

theorem Plugin.Agree.next {s₁ s₂ : Plugin K ndof} (h : s₁.Agree s₂) (h₁ : s₁.WellSized)
    (h₂ : s₂.WellSized) (hs : s₁.cleanBuffer.Settled) {e₁ e₂ : Event K ndof}
    (he : e₁.SameRequest e₂)
    (hgoal : ∀ req ∈ e₁.request?, ∀ l, acceptedGoal ndof mPi req l = false) :
    ∃ s₁' s₂', s₁.next lib svd mPi e₁ = some s₁' ∧ s₂.next lib svd mPi e₂ = some s₂' ∧
      s₁'.Agree s₂' ∧ s₁'.cleanBuffer.Settled := by
  cases e₁ with
  | uiCallback req =>
    cases e₂ with
    | uiCallback req' =>
      cases he
      exact ⟨_, _, rfl, rfl, h.uiCallback mPi req,
        settled_uiCallback mPi hs req (hgoal req rfl)⟩
    | update _ => exact he.elim
  | update t₁ =>
    cases e₂ with
    | uiCallback _ => exact he.elim
    | update t₂ => exact h.update lib svd mPi h₁ h₂ hs t₁ t₂

theorem Plugin.Agree.run {s₁ s₂ : Plugin K ndof} (h : s₁.Agree s₂) (h₁ : s₁.WellSized)
    (h₂ : s₂.WellSized) (hs : s₁.cleanBuffer.Settled) {es₁ es₂ : List (Event K ndof)}
    (hes : List.Forall₂ Event.SameRequest es₁ es₂)
    (hgoal :
      ∀ req ∈ es₁.filterMap Event.request?, ∀ l, acceptedGoal ndof mPi req l = false) :
    ∃ s₁' s₂', s₁.run lib svd mPi es₁ = some s₁' ∧
      s₂.run lib svd mPi es₂ = some s₂' ∧ s₁'.Agree s₂' := by
  induction hes generalizing s₁ s₂ with
  | nil => exact ⟨s₁, s₂, rfl, rfl, h⟩
  | @cons e₁ e₂ es₁ es₂ he _ ih =>
    obtain ⟨s₁', s₂', hn₁, hn₂, h', hs'⟩ := h.next lib svd mPi h₁ h₂ hs he
      fun req hr => hgoal req (List.mem_filterMap.mpr ⟨e₁, List.mem_cons_self _ _, hr⟩)
    obtain ⟨u₁, u₂, hu₁, hu₂, hu⟩ := ih h' (h₁.next hn₁) (h₂.next hn₂) hs'
      fun req hr => hgoal req (by
        obtain ⟨e, he, hr⟩ := List.mem_filterMap.mp hr
        exact List.mem_filterMap.mpr ⟨e, List.mem_cons_of_mem _ he, hr⟩)
    exact ⟨u₁, u₂, by rw [Plugin.run, hn₁, Option.some_bind, hu₁],
      by rw [Plugin.run, hn₂, Option.some_bind, hu₂], hu⟩

/-- Between goal changes the generators run open-loop: what is measured changes only `out.tau`. -/
theorem run_open_loop {s : Plugin K ndof} (hw : s.WellSized) (hs : s.cleanBuffer.Settled)
    {es₁ es₂ : List (Event K ndof)} (hes : List.Forall₂ Event.SameRequest es₁ es₂)
    (hgoal :
      ∀ req ∈ es₁.filterMap Event.request?, ∀ l, acceptedGoal ndof mPi req l = false) :
    ∃ s₁ s₂, s.run lib svd mPi es₁ = some s₁ ∧ s.run lib svd mPi es₂ = some s₂ ∧
      s₁.Agree s₂ :=
  (Plugin.Agree.refl s).run lib svd mPi hw hw hs hes hgoal

theorem run_open_loop_settled :
    let s : Plugin ℝ 1 := { init 3 1 with
      uiToCtrlData := fun _ => (((initConfig 3 1).clear .TASK).clear .POSTURE).toUiToCtrlS }
    let es₁ : List (Event ℝ 1) := [.update ⟨jointsStill, dynGravity, true⟩,
      .uiCallback ⟨.SET_TASK_KP, [1, 2, 3]⟩, .update ⟨jointsStill, dynGravity, false⟩]
    let es₂ : List (Event ℝ 1) := [.update ⟨⟨1, 1, 1⟩, dynGravity, false⟩,
      .uiCallback ⟨.SET_TASK_KP, [1, 2, 3]⟩,
      .update ⟨jointsStill, ⟨fun _ _ _ => 1, fun _ _ _ => 0, 2, 0⟩, true⟩]
    s.WellSized ∧ s.cleanBuffer.Settled ∧ List.Forall₂ Event.SameRequest es₁ es₂ ∧
      (∀ req ∈ es₁.filterMap Event.request?, ∀ l,
        acceptedGoal 1 (3 : ℝ) req l = false) ∧
      ∃ s₁ s₂, s.run reflexxesHold svdZero 3 es₁ = some s₁ ∧
        s.run reflexxesHold svdZero 3 es₂ = some s₂ ∧ s₁.Agree s₂ := by
  intro s es₁ es₂
  have hw : s.WellSized :=
    ⟨fun _ => Config.wellSized _, (wellSized_init (3 : ℝ) 1).cursor,
      (wellSized_init (3 : ℝ) 1).tau⟩
  have hs : s.cleanBuffer.Settled := fun l => by cases l <;> rfl
  have hes : List.Forall₂ Event.SameRequest es₁ es₂ :=
    .cons trivial (.cons rfl (.cons trivial .nil))
  have hgoal : ∀ req ∈ es₁.filterMap Event.request?, ∀ l,
      acceptedGoal 1 (3 : ℝ) req l = false := by
    intro req hreq l
    rw [show es₁.filterMap Event.request? = [⟨.SET_TASK_KP, [1, 2, 3]⟩] from rfl,
      List.mem_singleton] at hreq
    subst hreq
    cases l <;> rfl
  exact ⟨hw, hs, hes, hgoal, run_open_loop reflexxesHold svdZero 3 hw hs hes hgoal⟩

/-! ### No run changes the selection -/

section Step
variable {lib svd} {model : Model K ndof} {inp : UiToCtrlS K} {cursor : Level → OTGCursor K}
  {r : StepResult K}

theorem postureLevel?_selection {t : TaskTerms K} {tauTask : DVec K}
    (h : postureLevel? lib svd model t tauTask inp cursor = some r) (l : Level) :
    (r.cursor l).selection = (cursor l).selection := by
  simp only [postureLevel?, Option.bind_eq_bind, Option.bind_eq_some] at h
  obtain ⟨_, -, rc, hrc, h⟩ := h
  have hsel := selection_update (levelStep?_selection hrc) l
  by_cases hlt : rc.1 < 0
  · rw [if_pos hlt] at h
    cases h; exact hsel
  · rw [if_neg hlt, Option.bind_eq_some] at h
    obtain ⟨_, -, h⟩ := h
    rw [Option.bind_eq_some] at h
    obtain ⟨_, -, h⟩ := h
    cases h; exact hsel

theorem stepTaskPosture_selection (h : stepTaskPosture lib svd model inp cursor = some r)
    (l : Level) : (r.cursor l).selection = (cursor l).selection := by
  unfold stepTaskPosture at h
  split at h
  · cases h; rfl
  · simp only [Option.bind_eq_bind, Option.bind_eq_some] at h
    obtain ⟨_, -, rc, hrc, h⟩ := h
    have hsel := selection_update (levelStep?_selection hrc)
    by_cases hlt : rc.1 < 0
    · rw [if_pos hlt] at h
      cases h; exact hsel l
    · rw [if_neg hlt, Option.bind_eq_some] at h
      obtain ⟨_, -, h⟩ := h
      exact (postureLevel?_selection h l).trans (hsel l)

end Step

theorem uiCallback_cursor (s : Plugin K ndof) (req : Request K) :
    (uiCallback mPi s req).1.cursor = s.cursor := by
  unfold uiCallback; split <;> rfl

/-- No reachable state changes the selection `OTGCursor(ndof)` made. -/
theorem reachable_selection {s : Plugin K ndof} (hs : Reachable lib svd mPi s) (l : Level) :
    (s.cursor l).selection = .constant (l.size ndof) true := by
  induction hs with
  | init => cases l <;> rfl
  | @next s s' e _ hnext ih =>
    cases e with
    | uiCallback req =>
      cases hnext
      rw [uiCallback_cursor]
      exact ih
    | update t =>
      obtain ⟨r, tau, hr, rfl⟩ := update_fst lib svd hnext
      exact (stepTaskPosture_selection hr l).trans ih

theorem reachable_selection_goal_tick :
    let es : List (Event ℝ 1) :=
      [.uiCallback ⟨.SET_TASK_GOAL, [1, 2, 3]⟩, .update ⟨jointsStill, dynGravity, true⟩]
    ∃ s, (init (3 : ℝ) 1).run reflexxesHold svdZero 3 es = some s ∧
      Reachable reflexxesHold svdZero (3 : ℝ) s ∧
        (s.cursor .TASK).selection = .constant (Level.size 1 .TASK) true := by
  intro es
  obtain ⟨s, hs⟩ := (wellSized_init (3 : ℝ) 1).run_exists reflexxesHold svdZero 3 es
  have hr := Reachable.init.run hs
  exact ⟨s, hs, hr, reachable_selection reflexxesHold svdZero 3 hr .TASK⟩

/-! ### A `GET` reads back the last accepted `SET` -/

theorem foldl_registerRequest_get {f : Field} (u : UiToCtrlS K) {reqs : List (Request K)}
    (h : ∀ req ∈ reqs, ∀ c, acceptedSet? ndof mPi req = some c → c.field ≠ f) :
    (reqs.foldl (registerRequest ndof mPi) u).get f = u.get f := by
  induction reqs generalizing u with
  | nil => rfl
  | cons req reqs ih =>
    rw [List.foldl_cons, ih _ fun r hr => h r (List.mem_cons_of_mem _ hr)]
    exact registerRequest_get mPi u (h req (List.mem_cons_self _ _))

/-- A `GET` request reads back what the last accepted `SET` of its vector wrote. -/
theorem uiCallback_get_after_set {s : Plugin K ndof} (hw : s.WellSized) {mset mget : Mode}
    {c : SetCase} {g : GetCase K} (hc : handling ndof mPi mset = .set c)
    (hg : handling ndof mPi mget = .get g) (hf : g.field = c.field) {value : List K}
    (hne : value ≠ []) (hlen : value.length = c.size) {es : List (Event K ndof)}
    (hes : ∀ req ∈ es.filterMap Event.request?, ∀ c',
      acceptedSet? ndof mPi req = some c' → c'.field ≠ c.field) (value' : List K) :
    ∃ s', s.run lib svd mPi (.uiCallback ⟨mset, value⟩ :: es) = some s' ∧
      (uiCallback mPi s' ⟨mget, value'⟩).2.value = value := by
  obtain ⟨s', hs'⟩ := hw.run_exists lib svd mPi (.uiCallback ⟨mset, value⟩ :: es)
  refine ⟨s', hs', ?_⟩
  have hr : s.toRegister.run lib svd mPi (.uiCallback ⟨mset, value⟩ :: es) =
      some s'.toRegister := by
    rw [← run_toRegister, hs']; rfl
  have hacc : acceptedSet? ndof mPi ⟨mset, value⟩ = some c := by
    simp [acceptedSet?, hc, hne, hlen]
  have hget : s'.toRegister.reg.get c.field = .ofList value := by
    rw [← get_values, (Register.run_reg hr).1 s.cleanBuffer rfl, get_values,
      show (Event.uiCallback ⟨mset, value⟩ :: es).filterMap Event.request? =
        ⟨mset, value⟩ :: es.filterMap Event.request? from rfl, List.foldl_cons,
      foldl_registerRequest_get mPi _ hes, registerRequest, hacc, UiToCtrlS.get_set_self]
  simp only [uiCallback, hg, Plugin.getResponse, hf]
  exact (congrArg DVec.toList hget).trans (DVec.toList_ofList value)


theorem uiCallback_get_after_set_kp :
    let es : List (Event ℝ 1) := [.update ⟨jointsStill, dynGravity, true⟩,
      .uiCallback ⟨.SET_TASK_KD, [4, 5, 6]⟩, .uiCallback ⟨.SET_TASK_KP, [7]⟩]
    (init (3 : ℝ) 1).WellSized ∧
      (∀ req ∈ es.filterMap Event.request?, ∀ c',
        acceptedSet? 1 (3 : ℝ) req = some c' → c'.field ≠ .kp .TASK) ∧
      ∃ s', (init (3 : ℝ) 1).run reflexxesHold svdZero 3
          (.uiCallback ⟨.SET_TASK_KP, [1, 2, 3]⟩ :: es) = some s' ∧
        (uiCallback 3 s' ⟨.GET_TASK_KP, []⟩).2.value = [1, 2, 3] := by
  intro es
  have hes : ∀ req ∈ es.filterMap Event.request?, ∀ c',
      acceptedSet? 1 (3 : ℝ) req = some c' → c'.field ≠ .kp .TASK := by
    intro req hreq c' hc'
    rw [show es.filterMap Event.request? =
      [⟨.SET_TASK_KD, [4, 5, 6]⟩, ⟨.SET_TASK_KP, [7]⟩] from rfl] at hreq
    rcases List.mem_pair.mp hreq with rfl | rfl <;> cases hc'
    nofun
  exact ⟨wellSized_init 3 1, hes, uiCallback_get_after_set reflexxesHold svdZero 3
    (wellSized_init 3 1) (by rfl) (by rfl) rfl (List.cons_ne_nil _ _) rfl hes []⟩


/-! ### Requests the controller never sees -/

/-- The events that can change what the controller uses: ticks and accepted `SET`s. -/
def Event.accepted (ndof : ℕ) (mPi : K) : Event K ndof → Bool
  | .uiCallback req => (acceptedSet? ndof mPi req).isSome
  | .update _ => true

theorem Register.uiCallback_of_not_accepted (g : Register K ndof) {req : Request K}
    (h : acceptedSet? ndof mPi req = none) : (g.uiCallback mPi req).1 = g := by
  unfold Register.uiCallback
  unfold acceptedSet? at h
  split
  · next c hc =>
    simp only [hc, ite_eq_right_iff, reduceCtorEq, imp_false, not_and] at h
    unfold SetCase.run
    by_cases he : req.value.isEmpty
    · simp [he]
    · simp [he, h (by simpa using he)]
  all_goals rfl

theorem Register.run_filter_accepted (g : Register K ndof) (es : List (Event K ndof)) :
    g.run lib svd mPi (es.filter (Event.accepted ndof mPi)) = g.run lib svd mPi es := by
  induction es generalizing g with
  | nil => rfl
  | cons e es ih =>
    by_cases he : e.accepted ndof mPi
    · rw [List.filter_cons_of_pos he, Register.run, Register.run]
      exact congrArg _ (funext ih)
    · rw [List.filter_cons_of_neg he, ih, Register.run]
      cases e with
      | uiCallback req =>
        have h : acceptedSet? ndof mPi req = none := by simpa [Event.accepted] using he
        rw [Register.next, Register.uiCallback_of_not_accepted mPi g h, Option.some_bind]
      | update t => exact absurd rfl he

/-- Requests that are not accepted `SET`s are invisible to the controller. -/
theorem run_toRegister_accepted (s : Plugin K ndof) (es : List (Event K ndof)) :
    (s.run lib svd mPi (es.filter (Event.accepted ndof mPi))).map Plugin.toRegister =
      (s.run lib svd mPi es).map Plugin.toRegister := by
  rw [run_toRegister, run_toRegister, Register.run_filter_accepted]

end Field

end WholeBodyControl.TaskPostureOTG
