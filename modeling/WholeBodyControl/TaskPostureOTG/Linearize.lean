import WholeBodyControl.TaskPostureOTG.Run

/-! `update` on the realtime thread and `uiCallback` on the service thread, with the data
they access. A call's accesses of the buffers are taken together at the end of the call,
with `in` and `out` bound when it began; the conflicts of `Sys.conflict` are the overlaps
where that could matter. Every interleaving in which no step starts from such a conflict is
linearizable: it computes what the plugin computes running the same calls one at a time,
each tick at its start and each callback at its end. -/
namespace WholeBodyControl.TaskPostureOTG
open Eigen TaskPosture

variable {K : Type} {ndof : ℕ}

/-- Whether `update` clears a set `goal_changed` flag of a level `reach` reaches. -/
def UiToCtrlS.clearsFlag (u : UiToCtrlS K) (reach : Level → Bool) : Bool :=
  (u.level .TASK).goalChanged && reach .TASK || (u.level .POSTURE).goalChanged && reach .POSTURE

theorem UiToCtrlS.afterStep_of_clearsFlag {u : UiToCtrlS K} {reach : Level → Bool}
    (h : u.clearsFlag reach = false) : u.afterStep reach = u := by
  simp only [clearsFlag, Bool.or_eq_false_iff, Bool.and_eq_false_iff] at h
  have hl : ∀ l, (u.level l).goalChanged = false ∨ reach l = false := fun l => by
    cases l
    exacts [h.1, h.2]
  refine UiToCtrlS.ext rfl (funext fun l => ?_)
  rcases hl l with h' | h' <;> ext <;> simp [afterStep, h']

theorem Fin.two_eq_of_ne {a b c : Fin 2} (hb : a ≠ b) (hc : a ≠ c) : b = c := by
  revert a b c; decide

section Field
variable [LinearOrderedField K] (lib : Reflexxes K) (svd : SVD K) (mPi : K)

/-! ### A tick that bound `in` earlier -/

/-- The rest of a tick that bound `in` at counter `t0`: `update` on the buffer `clean(t0)`. -/
def tickEnd (s : Plugin K ndof) (t0 : BitVec 64) (t : TickInput K ndof) :
    Option (Plugin K ndof) :=
  (update lib svd { s with uiToCtrlTick := t0 } t).map fun p =>
    { p.1 with uiToCtrlTick := s.uiToCtrlTick }

/-- Whether that tick's `stepTaskPosture` writes its buffer. -/
def tickWrites (s : Plugin K ndof) (t0 : BitVec 64) (t : TickInput K ndof) : Bool :=
  match stepTaskPosture lib svd ⟨t.dyn, t.joints⟩ (s.uiToCtrlData (clean t0)) s.cursor with
  | some r => (s.uiToCtrlData (clean t0)).clearsFlag r.outcome.reaches
  | none => false

theorem tickWrites_of_settled {s : Plugin K ndof} {t0 : BitVec 64}
    (h : (s.uiToCtrlData (clean t0)).Settled) (t : TickInput K ndof) :
    tickWrites lib svd s t0 t = false := by
  unfold tickWrites
  split
  · simp [UiToCtrlS.clearsFlag, h .TASK, h .POSTURE]
  · rfl

theorem tickEnd_eq (s : Plugin K ndof) (t0 : BitVec 64) (t : TickInput K ndof) :
    tickEnd lib svd s t0 t =
      (stepTaskPosture lib svd ⟨t.dyn, t.joints⟩ (s.uiToCtrlData (clean t0)) s.cursor).bind
        fun r => (commandEfforts? ndof (r.outcome.ok t.fallOff)
          (r.outcome.tau (s.tau (dirty s.ctrlToUiTick)))).map fun out =>
            ⟨s.uiToCtrlTick, Function.update s.uiToCtrlData (clean t0) r.input, r.cursor,
              s.ctrlToUiTick + 1, Function.update s.tau (dirty s.ctrlToUiTick) out.1⟩ := by
  unfold tickEnd update
  simp only [Option.bind_eq_bind, Plugin.cleanBuffer]
  cases stepTaskPosture lib svd ⟨t.dyn, t.joints⟩ (s.uiToCtrlData (clean t0)) s.cursor with
  | none => rfl
  | some r =>
    simp only [Option.some_bind]
    cases commandEfforts? ndof (r.outcome.ok t.fallOff)
      (r.outcome.tau (s.tau (dirty s.ctrlToUiTick))) <;> rfl

theorem tickEnd_self (s : Plugin K ndof) (t : TickInput K ndof) :
    tickEnd lib svd s s.uiToCtrlTick t = (update lib svd s t).map Prod.fst := by
  rw [tickEnd_eq]
  unfold update
  simp only [Option.bind_eq_bind, Plugin.cleanBuffer]
  cases stepTaskPosture lib svd ⟨t.dyn, t.joints⟩ (s.uiToCtrlData (clean s.uiToCtrlTick))
    s.cursor with
  | none => rfl
  | some r =>
    simp only [Option.some_bind]
    cases commandEfforts? ndof (r.outcome.ok t.fallOff)
      (r.outcome.tau (s.tau (dirty s.ctrlToUiTick))) <;> rfl

/-- A non-writing tick commutes with a `SET_*` callback that leaves its buffer alone. -/
theorem tickEnd_setRequest {s : Plugin K ndof} {t0 : BitVec 64} (t : TickInput K ndof)
    (c : SetCase) (value : List K) (hdst : dirty s.uiToCtrlTick ≠ clean t0)
    (hw : tickWrites lib svd s t0 t = false) :
    tickEnd lib svd (s.setRequest c value).1 t0 t =
      (tickEnd lib svd s t0 t).map fun q => (q.setRequest c value).1 := by
  have hsrc : clean s.uiToCtrlTick = clean t0 :=
    Fin.two_eq_of_ne (dirty_ne_clean s.uiToCtrlTick) hdst
  rw [tickEnd_eq, tickEnd_eq]
  simp only [Plugin.setRequest, Function.update_noteq hdst.symm]
  cases hr : stepTaskPosture lib svd ⟨t.dyn, t.joints⟩ (s.uiToCtrlData (clean t0)) s.cursor with
  | none => rfl
  | some r =>
    simp only [Option.some_bind]
    have hin : r.input = s.uiToCtrlData (clean t0) := by
      rw [stepTaskPosture_input hr]
      exact UiToCtrlS.afterStep_of_clearsFlag (by simpa [tickWrites, hr] using hw)
    cases commandEfforts? ndof (r.outcome.ok t.fallOff)
      (r.outcome.tau (s.tau (dirty s.ctrlToUiTick))) with
    | none => rfl
    | some out =>
      simp only [Option.map_some', Plugin.setRequest, Plugin.cleanBuffer, hin, hsrc,
        Function.update_eq_self]
      rw [Function.update_eq_self_iff.mpr (Function.update_noteq hdst.symm _ _).symm]

theorem tickEnd_uiCallback {s : Plugin K ndof} {t0 : BitVec 64} (t : TickInput K ndof)
    (req : Request K)
    (hfree : ∀ c, handling ndof mPi req.mode = .set c →
      dirty s.uiToCtrlTick ≠ clean t0 ∧ tickWrites lib svd s t0 t = false) :
    tickEnd lib svd (uiCallback mPi s req).1 t0 t =
      (tickEnd lib svd s t0 t).map fun q => (uiCallback mPi q req).1 := by
  unfold uiCallback
  cases hm : handling ndof mPi req.mode with
  | set c =>
    obtain ⟨hdst, hw⟩ := hfree c hm
    exact tickEnd_setRequest lib svd t c req.value hdst hw
  | get c => simp
  | invalid code => simp

/-! ### The two threads -/

/-- The plugin's data, the two threads' positions, and a ghost `log` of calls in effect order. -/
structure Threads (K : Type) (ndof : ℕ) where
  plugin : Plugin K ndof
  ctrl : Option (BitVec 64 × TickInput K ndof)
  ui : Option (Request K)
  log : List (Event K ndof)

/-- The atomic steps of the two threads. -/
inductive ThreadAction (K : Type) (ndof : ℕ)
  | tickBegin (t : TickInput K ndof)
  | tickEnd
  | callbackBegin (req : Request K)
  | callbackEnd

namespace Threads

def start (s : Plugin K ndof) : Threads K ndof := ⟨s, none, none, []⟩

/-- One step; `none` when the thread is not at that point or the tick fails. -/
def next (c : Threads K ndof) : ThreadAction K ndof → Option (Threads K ndof)
  | .tickBegin t => match c.ctrl with
    | none => some { c with
        ctrl := some (c.plugin.uiToCtrlTick, t)
        log := c.log ++ [.update t] }
    | some _ => none
  | .tickEnd => match c.ctrl with
    | some (t0, t) =>
      (tickEnd lib svd c.plugin t0 t).map fun p => { c with plugin := p, ctrl := none }
    | none => none
  | .callbackBegin req => match c.ui with
    | none => some { c with ui := some req }
    | some _ => none
  | .callbackEnd => match c.ui with
    | some req => some { c with
        plugin := (uiCallback mPi c.plugin req).1
        ui := none
        log := c.log ++ [.uiCallback req] }
    | none => none

/-- The threads as `Sys` tracks them: the tick's buffer and write flag, the callback's copies. -/
def toSys (c : Threads K ndof) : Sys where
  uiToCtrlTick := c.plugin.uiToCtrlTick
  ctrl := match c.ctrl with
    | some (t0, t) => .holding (clean t0) t0 (tickWrites lib svd c.plugin t0 t)
    | none => .idle
  ui := match c.ui with
    | some req => match handling ndof mPi req.mode with
      | .set _ => .copying (clean c.plugin.uiToCtrlTick) (dirty c.plugin.uiToCtrlTick)
      | _ => .idle
    | none => .idle

/-- The plugin once the running tick, if any, has finished. -/
def abs (c : Threads K ndof) : Option (Plugin K ndof) :=
  match c.ctrl with
  | some (t0, t) => tickEnd lib svd c.plugin t0 t
  | none => some c.plugin

/-- The states reached from `start s₀` by steps that never start from a conflict. -/
inductive ConflictFree (s₀ : Plugin K ndof) : Threads K ndof → Prop
  | start : ConflictFree s₀ (start s₀)
  | next {c c' : Threads K ndof} (a : ThreadAction K ndof) : ConflictFree s₀ c →
      (c.toSys lib svd mPi).conflict = false → c.next lib svd mPi a = some c' →
      ConflictFree s₀ c'

theorem callback_of_not_conflict {c : Threads K ndof} {t0 : BitVec 64} {t : TickInput K ndof}
    {req : Request K} (hc : c.ctrl = some (t0, t)) (hu : c.ui = some req)
    (hfree : (c.toSys lib svd mPi).conflict = false) (c' : SetCase)
    (hm : handling ndof mPi req.mode = .set c') :
    dirty c.plugin.uiToCtrlTick ≠ clean t0 ∧ tickWrites lib svd c.plugin t0 t = false := by
  simp only [Sys.conflict, toSys, hc, hu, hm, Bool.or_eq_false_iff, decide_eq_false_iff_not,
    Bool.and_eq_false_iff] at hfree
  refine ⟨hfree.1, hfree.2.resolve_right fun h => hfree.1 ?_⟩
  exact Fin.two_eq_of_ne (dirty_ne_clean _).symm h

/-- A conflict-free step logs the calls taking effect in it, and `abs` advances by exactly those. -/
theorem next_abs {c c' : Threads K ndof} {a : ThreadAction K ndof}
    (hfree : (c.toSys lib svd mPi).conflict = false) (hstep : c.next lib svd mPi a = some c') :
    ∃ es, c'.log = c.log ++ es ∧ c'.abs lib svd = (c.abs lib svd).bind (·.run lib svd mPi es) := by
  cases a with
  | tickBegin t =>
    cases hc : c.ctrl <;> simp only [next, hc, reduceCtorEq, Option.some.injEq] at hstep
    subst hstep
    refine ⟨[.update t], rfl, ?_⟩
    simp only [abs, hc, Option.some_bind, Plugin.run, Plugin.next, Option.bind_some,
      tickEnd_self]
  | tickEnd =>
    cases hc : c.ctrl with
    | none => simp only [next, hc, reduceCtorEq] at hstep
    | some p =>
      obtain ⟨t0, t⟩ := p
      simp only [next, hc, Option.map_eq_some'] at hstep
      obtain ⟨p', hp', rfl⟩ := hstep
      refine ⟨[], (List.append_nil _).symm, ?_⟩
      simp only [abs, hc, hp', Plugin.run, Option.some_bind]
  | callbackBegin req =>
    cases hu : c.ui <;> simp only [next, hu, reduceCtorEq, Option.some.injEq] at hstep
    subst hstep
    exact ⟨[], (List.append_nil _).symm, (Option.bind_some _).symm⟩
  | callbackEnd =>
    cases hu : c.ui with
    | none => simp only [next, hu, reduceCtorEq] at hstep
    | some req =>
      simp only [next, hu, Option.some.injEq] at hstep
      subst hstep
      refine ⟨[.uiCallback req], rfl, ?_⟩
      cases hc : c.ctrl with
      | none => simp only [abs, hc]; rfl
      | some p =>
        obtain ⟨t0, t⟩ := p
        simp only [abs, hc]
        rw [tickEnd_uiCallback lib svd mPi t req (callback_of_not_conflict lib svd mPi hc hu hfree)]
        cases tickEnd lib svd c.plugin t0 t <;> rfl

theorem tickEnd_uiToCtrlTick {s p : Plugin K ndof} {t0 : BitVec 64} {t : TickInput K ndof}
    (h : tickEnd lib svd s t0 t = some p) : p.uiToCtrlTick = s.uiToCtrlTick := by
  obtain ⟨q, -, rfl⟩ := Option.map_eq_some'.mp h
  rfl

theorem tickWrites_congr {s s' : Plugin K ndof} {t0 : BitVec 64}
    (hb : s.uiToCtrlData (clean t0) = s'.uiToCtrlData (clean t0)) (hc : s.cursor = s'.cursor)
    (t : TickInput K ndof) : tickWrites lib svd s t0 t = tickWrites lib svd s' t0 t := by
  unfold tickWrites
  rw [hb, hc]

theorem uiCallback_of_not_set (s : Plugin K ndof) (req : Request K)
    (h : ∀ c, handling ndof mPi req.mode ≠ .set c) : (uiCallback mPi s req).1 = s := by
  unfold uiCallback
  split
  · next c hc => exact absurd hc (h c)
  all_goals rfl

/-- A conflict-free step is a step of `Sys` through `toSys`, or one that `Sys` does not see. -/
theorem next_toSys {c c' : Threads K ndof} {a : ThreadAction K ndof}
    (hfree : (c.toSys lib svd mPi).conflict = false) (hstep : c.next lib svd mPi a = some c') :
    c'.toSys lib svd mPi = c.toSys lib svd mPi ∨
      ∃ a', (c.toSys lib svd mPi).next a' = some (c'.toSys lib svd mPi) := by
  cases a with
  | tickBegin t =>
    cases hc : c.ctrl <;> simp only [next, hc, reduceCtorEq, Option.some.injEq] at hstep
    subst hstep
    exact .inr ⟨.tickBegin (tickWrites lib svd c.plugin c.plugin.uiToCtrlTick t),
      by simp [toSys, Sys.next, hc]⟩
  | tickEnd =>
    cases hc : c.ctrl with
    | none => simp only [next, hc, reduceCtorEq] at hstep
    | some p =>
      obtain ⟨t0, t⟩ := p
      simp only [next, hc, Option.map_eq_some'] at hstep
      obtain ⟨p', hp', rfl⟩ := hstep
      exact .inr ⟨.tickEnd, by simp [toSys, Sys.next, hc, tickEnd_uiToCtrlTick lib svd hp']⟩
  | callbackBegin req =>
    cases hu : c.ui <;> simp only [next, hu, reduceCtorEq, Option.some.injEq] at hstep
    subst hstep
    cases hm : handling ndof mPi req.mode with
    | set sc => exact .inr ⟨.setBegin, by simp [toSys, Sys.next, hu, hm]⟩
    | get _ | invalid _ => exact .inl (by simp [toSys, hu, hm])
  | callbackEnd =>
    cases hu : c.ui with
    | none => simp only [next, hu, reduceCtorEq] at hstep
    | some req =>
      simp only [next, hu, Option.some.injEq] at hstep
      subst hstep
      cases hm : handling ndof mPi req.mode with
      | set sc =>
        have hplug : (uiCallback mPi c.plugin req).1 = (c.plugin.setRequest sc req.value).1 := by
          simp [uiCallback, hm]
        refine .inr ⟨.setEnd, ?_⟩
        cases hc : c.ctrl with
        | none => simp [toSys, Sys.next, hu, hm, hc, hplug, Plugin.setRequest]
        | some p =>
          obtain ⟨t0, t⟩ := p
          have hdst := (callback_of_not_conflict lib svd mPi hc hu hfree sc hm).1
          have hb : (uiCallback mPi c.plugin req).1.uiToCtrlData (clean t0) =
              c.plugin.uiToCtrlData (clean t0) := by
            rw [hplug]
            exact setRequest_uiToCtrlData_of_ne sc _ _ hdst.symm
          have hw := tickWrites_congr lib svd hb (uiCallback_cursor mPi c.plugin req) t
          simp only [toSys, Sys.next, hu, hm, hc, hw]
          simp [hplug, Plugin.setRequest]
      | get _ | invalid _ =>
        exact .inl (by simp [toSys, hu, hm, uiCallback_of_not_set mPi c.plugin req (by simp [hm])])

end Threads

theorem conflictFree_set_during_tick :
    let s₀ : Plugin ℝ 1 := { init 3 1 with
      uiToCtrlData := fun _ => (((initConfig 3 1).clear .TASK).clear .POSTURE).toUiToCtrlS }
    let t : TickInput ℝ 1 := ⟨jointsStill, dynGravity, true⟩
    let req : Request ℝ := ⟨.SET_TASK_KP, [1, 2, 3]⟩
    Threads.ConflictFree reflexxesHold svdZero 3 s₀
      ⟨(uiCallback 3 s₀ req).1, some (s₀.uiToCtrlTick, t), none, [.update t, .uiCallback req]⟩ := by
  intro s₀ t req
  have hw : tickWrites reflexxesHold svdZero s₀ s₀.uiToCtrlTick t = false :=
    tickWrites_of_settled reflexxesHold svdZero (fun l => by cases l <;> rfl) t
  exact .next .callbackEnd (.next (.callbackBegin req) (.next (.tickBegin t) .start rfl rfl)
    rfl rfl) (by simp only [Threads.toSys, Sys.conflict, hw]; decide) rfl

/-- Every conflict-free interleaving of ticks and callbacks is linearizable by its ghost log. -/
theorem Threads.ConflictFree.run_log {s₀ : Plugin K ndof} {c : Threads K ndof}
    (h : c.ConflictFree lib svd mPi s₀) : s₀.run lib svd mPi c.log = c.abs lib svd := by
  induction h with
  | start => rfl
  | next a _ hfree hstep ih =>
    obtain ⟨es, hlog, habs⟩ := Threads.next_abs lib svd mPi hfree hstep
    rw [hlog, Plugin.run_append, ih, habs]

theorem run_log_set_during_tick :
    let s₀ : Plugin ℝ 1 := { init 3 1 with
      uiToCtrlData := fun _ => (((initConfig 3 1).clear .TASK).clear .POSTURE).toUiToCtrlS }
    let t : TickInput ℝ 1 := ⟨jointsStill, dynGravity, true⟩
    let req : Request ℝ := ⟨.SET_TASK_KP, [1, 2, 3]⟩
    let c : Threads ℝ 1 :=
      ⟨(uiCallback 3 s₀ req).1, some (s₀.uiToCtrlTick, t), none, [.update t, .uiCallback req]⟩
    c.ConflictFree reflexxesHold svdZero 3 s₀ ∧
      s₀.run reflexxesHold svdZero 3 c.log = c.abs reflexxesHold svdZero :=
  ⟨conflictFree_set_during_tick,
    Threads.ConflictFree.run_log reflexxesHold svdZero 3 conflictFree_set_during_tick⟩

/-- Seen through `toSys`, every conflict-free interleaving reaches a state `Sys` reaches. -/
theorem Threads.ConflictFree.toSys_reachable {s₀ : Plugin K ndof} {c : Threads K ndof}
    (h : c.ConflictFree lib svd mPi s₀) : (c.toSys lib svd mPi).Reachable := by
  induction h with
  | start => exact .init s₀.uiToCtrlTick
  | next a _ hfree hstep ih =>
    rcases Threads.next_toSys lib svd mPi hfree hstep with heq | ⟨a', ha'⟩
    · exact heq ▸ ih
    · exact .step a' ih ha'

theorem toSys_reachable_set_during_tick :
    let s₀ : Plugin ℝ 1 := { init 3 1 with
      uiToCtrlData := fun _ => (((initConfig 3 1).clear .TASK).clear .POSTURE).toUiToCtrlS }
    let t : TickInput ℝ 1 := ⟨jointsStill, dynGravity, true⟩
    let req : Request ℝ := ⟨.SET_TASK_KP, [1, 2, 3]⟩
    let c : Threads ℝ 1 :=
      ⟨(uiCallback 3 s₀ req).1, some (s₀.uiToCtrlTick, t), none, [.update t, .uiCallback req]⟩
    c.ConflictFree reflexxesHold svdZero 3 s₀ ∧ (c.toSys reflexxesHold svdZero 3).Reachable :=
  ⟨conflictFree_set_during_tick,
    Threads.ConflictFree.toSys_reachable reflexxesHold svdZero 3 conflictFree_set_during_tick⟩

end Field

end WholeBodyControl.TaskPostureOTG
