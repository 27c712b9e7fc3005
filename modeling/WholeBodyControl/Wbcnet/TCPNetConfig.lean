import Mathlib.Tactic.Common

/-! `wbcnet::TCPServerNetConfig` and `wbcnet::TCPClientNetConfig`: the TCP port each end of a
channel between two processes opens, and how `CreateChannel` polls the socket until the
channel is up. -/
namespace WholeBodyControl.Wbcnet

/-- `NetConfig::process_t`: the processes `get_tcp_port` names, and any other value. -/
inductive Process
  | SERVO
  | MODEL
  | USER
  | other (code : ℤ)
  deriving DecidableEq

/-- `get_tcp_port(from_process, to_process)`; `none` is the `runtime_error` it throws. -/
def getTcpPort : Process → Process → Option ℕ
  | .SERVO, .MODEL => some 9999
  | .SERVO, .USER => some 8888
  | .MODEL, .SERVO => some 9999
  | .USER, .SERVO => some 8888
  | _, _ => none

/-! ### Opening the channel -/

/-- `wbcnet::com_status`: the answers `CreateChannel` tells apart, and any other. -/
inductive ComStatus
  | COM_OK
  | COM_TRY_AGAIN
  | COM_OTHER_ERROR
  | other (code : ℤ)
  deriving DecidableEq

/-- The socket: whether `Open` and `BindListen` succeed, and the `k`-th `Accept`/`Connect`. -/
structure Socket where
  openOk : ℕ → Bool
  bindListenOk : Bool
  answer : ℕ → ComStatus

/-- The `runtime_error`s of `CreateChannel`: port lookup, `Open`, `BindListen`, last answer. -/
inductive SetupError
  | invalidProcesses
  | openFailed (port : ℕ)
  | bindListenFailed
  | answerFailed (cs : ComStatus)
  deriving DecidableEq

/-- The polling loop from the `k`-th call, calling again while `retry` holds; `none` out of fuel. -/
def poll (answer : ℕ → ComStatus) (retry : ComStatus → Bool) : ℕ → ℕ → Option ComStatus
  | 0, _ => none
  | fuel + 1, k => if retry (answer k) then poll answer retry fuel (k + 1) else some (answer k)

/-- The check after the loop: the channel on `port` after `COM_OK`, the error otherwise. -/
def connect (answer : ℕ → ComStatus) (retry : ComStatus → Bool) (port fuel : ℕ) :
    Option (Except SetupError ℕ) :=
  (poll answer retry fuel 0).map fun cs =>
    if cs = .COM_OK then .ok port else .error (.answerFailed cs)

/-- `TCPServerNetConfig::CreateChannel`, with `fuel` calls of `Accept()`; `none` if unfinished. -/
def createServerChannel (sock : Socket) (a b : Process) (fuel : ℕ) :
    Option (Except SetupError ℕ) :=
  match getTcpPort a b with
  | none => some (.error .invalidProcesses)
  | some port =>
    if !sock.openOk port then some (.error (.openFailed port))
    else if !sock.bindListenOk then some (.error .bindListenFailed)
    else connect sock.answer (fun cs => cs = .COM_TRY_AGAIN) port fuel

/-- `TCPClientNetConfig::CreateChannel`, likewise; it also retries on `COM_OTHER_ERROR`. -/
def createClientChannel (sock : Socket) (a b : Process) (fuel : ℕ) :
    Option (Except SetupError ℕ) :=
  match getTcpPort a b with
  | none => some (.error .invalidProcesses)
  | some port =>
    if !sock.openOk port then some (.error (.openFailed port))
    else connect sock.answer (fun cs => cs = .COM_TRY_AGAIN || cs = .COM_OTHER_ERROR) port fuel

theorem poll_of_first {answer : ℕ → ComStatus} {retry : ComStatus → Bool} {n : ℕ} :
    ∀ {k fuel : ℕ}, (∀ j < n, retry (answer (k + j)) = true) → retry (answer (k + n)) = false →
      n < fuel → poll answer retry fuel k = some (answer (k + n)) := by
  induction n with
  | zero =>
    intro k fuel _ hn hf
    obtain ⟨fuel, rfl⟩ : ∃ f, fuel = f + 1 := ⟨fuel - 1, by omega⟩
    rw [Nat.add_zero] at hn
    simp [poll, hn]
  | succ n ih =>
    intro k fuel hr hn hf
    obtain ⟨fuel, rfl⟩ : ∃ f, fuel = f + 1 := ⟨fuel - 1, by omega⟩
    have hshift : ∀ j, k + 1 + j = k + (j + 1) := fun j => by omega
    rw [poll, if_pos (by simpa using hr 0 n.succ_pos),
      ih (fun j hj => hshift j ▸ hr (j + 1) (by omega)) (hshift n ▸ hn) (by omega), hshift]

theorem poll_eq_none {answer : ℕ → ComStatus} {retry : ComStatus → Bool}
    (h : ∀ j, retry (answer j) = true) (fuel k : ℕ) : poll answer retry fuel k = none := by
  induction fuel generalizing k with
  | zero => rfl
  | succ fuel ih => rw [poll, if_pos (h k), ih]

/-- `f` polls `answer` while `retry` holds, ends at the first other answer, never gives up. -/
def PollsUntil (retry : ComStatus → Prop) (answer : ℕ → ComStatus) (port : ℕ)
    (f : ℕ → Option (Except SetupError ℕ)) : Prop :=
  (∀ n, (∀ j < n, retry (answer j)) → ¬ retry (answer n) → ∀ fuel, n < fuel →
    f fuel = some (if answer n = .COM_OK then .ok port else .error (.answerFailed (answer n)))) ∧
  ((∀ j, retry (answer j)) → ∀ fuel, f fuel = none)

theorem connect_pollsUntil (answer : ℕ → ComStatus) (retry : ComStatus → Bool) (port : ℕ) :
    PollsUntil (fun cs => retry cs = true) answer port (connect answer retry port) := by
  refine ⟨fun n hr hn fuel hf => ?_, fun h fuel => ?_⟩
  · rw [connect, poll_of_first (by simpa using hr) (by simpa using hn) hf]
    simp
  · rw [connect, poll_eq_none h]
    rfl

/-- Each end polls its peer with no call limit, and stops at the first answer not to retry. -/
theorem createChannel_pollsUntil (sock : Socket) {a b : Process} {port : ℕ}
    (hport : getTcpPort a b = some port) (hopen : sock.openOk port = true) :
    (sock.bindListenOk = true →
      PollsUntil (· = .COM_TRY_AGAIN) sock.answer port (createServerChannel sock a b)) ∧
    PollsUntil (fun cs => cs = .COM_TRY_AGAIN ∨ cs = .COM_OTHER_ERROR) sock.answer port
      (createClientChannel sock a b) := by
  refine ⟨fun hbind => ?_, ?_⟩
  · have hs : createServerChannel sock a b =
        connect sock.answer (fun cs => cs = .COM_TRY_AGAIN) port :=
      funext fun _ => by simp [createServerChannel, hport, hopen, hbind]
    simpa [hs] using connect_pollsUntil sock.answer (fun cs => cs = .COM_TRY_AGAIN) port
  · have hs : createClientChannel sock a b =
        connect sock.answer (fun cs => cs = .COM_TRY_AGAIN || cs = .COM_OTHER_ERROR) port :=
      funext fun _ => by simp [createClientChannel, hport, hopen]
    simpa [hs] using connect_pollsUntil sock.answer
      (fun cs => cs = .COM_TRY_AGAIN || cs = .COM_OTHER_ERROR) port

theorem createChannel_pollsUntil_user :
    let sock : Socket := ⟨fun _ => true, true, fun k => if k < 2 then .COM_TRY_AGAIN else .COM_OK⟩
    getTcpPort .USER .SERVO = some 8888 ∧ sock.openOk 8888 = true ∧
      (sock.bindListenOk = true →
        PollsUntil (· = .COM_TRY_AGAIN) sock.answer 8888 (createServerChannel sock .USER .SERVO)) ∧
      PollsUntil (fun cs => cs = .COM_TRY_AGAIN ∨ cs = .COM_OTHER_ERROR) sock.answer 8888
        (createClientChannel sock .USER .SERVO) :=
  ⟨rfl, rfl, createChannel_pollsUntil _ rfl rfl⟩

end WholeBodyControl.Wbcnet
