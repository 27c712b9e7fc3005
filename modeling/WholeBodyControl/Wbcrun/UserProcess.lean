import Mathlib.Data.List.Range
import Mathlib.Data.Int.Defs

/-! `wbcrun::UserProcess::Step`: one command line of the console client, and the messages it
enqueues on `m_channel` and the waits it performs. -/
namespace WholeBodyControl.Wbcrun

variable {K : Type}

/-- `m_user_request`, named by the `wbcrun::srv` function that built it; `unset` as constructed. -/
inductive UserRequest (K : Type)
  | unset
  | getPos
  | getEndPos
  | getVel
  | getTorques
  | floatCommand
  | activateCommand
  | setGoal (goal : List K)
  | toggleRecorder
  | setGains (gains : List K)
  | listBehaviors
  deriving DecidableEq

/-- `m_task_spec`, with the `uint8_t` fields `Init` sets. -/
structure TaskSpec where
  requestID : BitVec 8
  behaviorID : BitVec 8
  deriving DecidableEq

inductive Message (K : Type)
  | userRequest (r : UserRequest K)
  | taskSpec (t : TaskSpec)
  deriving DecidableEq

/-- `EnqueueMessage(m_channel, ...)`, `SendWait(10000)` and `ReceiveWait(10000, 1)`. -/
inductive ChannelOp (K : Type)
  | enqueue (m : Message K)
  | sendWait
  | receiveWait
  deriving DecidableEq

/-- The state `Step` reads and writes. -/
structure UserProcess (K : Type) where
  userRequest : UserRequest K
  taskSpec : TaskSpec
  lazyBehaviorList : List String

/-- `operator>>` for `double` and `int` (`none` on `failbit`), and `ListBehaviors`'s outcome. -/
structure Env (K : Type) where
  readDouble : List Char → Option (K × List Char)
  readInt : List Char → Option (ℤ × List Char)
  listBehaviors : Option (List String)

/-- What one `Step` returns and leaves. -/
structure StepResult (K : Type) where
  goOn : Bool
  state : UserProcess K
  rest : List String
  ops : List (ChannelOp K)

namespace UserProcess

/-- After `Init`: `requestID = 0` and `behaviorID = numeric_limits<uint8_t>::max()`. -/
def init : UserProcess K := ⟨.unset, ⟨0, 255⟩, []⟩

end UserProcess

/-- `buflen`: `cin.getline` fails on a longer line, and the stream then fails every later read. -/
def buflen : ℕ := 1024

/-- `istringstream line(buffer)` reads the buffer up to its first zero byte. -/
def lineStream (buffer : String) : List Char := buffer.toList.takeWhile (· ≠ '\x00')

/-- The white space of `operator>>` in the C locale. -/
def isSpace (c : Char) : Bool :=
  c = ' ' || c = '\t' || c = '\n' || c = '\x0b' || c = '\x0c' || c = '\r'

/-- `line >> token` for a `std::string`. -/
def readToken (line : List Char) : Option (String × List Char) :=
  match (line.dropWhile isSpace).span (fun c => !isSpace c) with
  | ([], _) => none
  | (token, rest) => some (String.mk token, rest)

/-- `line >> x[0] >> ... >> x[n-1]` for doubles. -/
def readDoubles (env : Env K) : ℕ → List Char → Option (List K)
  | 0, _ => some []
  | n + 1, line => do
    let (x, line) ← env.readDouble line
    let xs ← readDoubles env n line
    some (x :: xs)

/-- The loop of `InteractiveGoalRequest`: a bad line asks again, a failed `getline` returns. -/
def goalFields (env : Env K) (goal : List K) : List String → Option (List K) × List String
  | [] => (none, [])
  | buffer :: rest =>
    if buflen ≤ buffer.utf8ByteSize then (none, []) else
    match env.readDouble (lineStream buffer) with
    | none => goalFields env goal rest
    | some (g, _) =>
      if goal.length + 1 < 6 then goalFields env (goal ++ [g]) rest else (some (goal ++ [g]), rest)

theorem goalFields_rest_length (env : Env K) (goal : List K) (input : List String) :
    (goalFields env goal input).2.length ≤ input.length := by
  induction input generalizing goal with
  | nil => simp [goalFields]
  | cons buffer rest ih =>
    simp only [goalFields]
    split
    · simp
    · split
      · exact (ih goal).trans (Nat.le_succ _)
      · split
        · exact (ih _).trans (Nat.le_succ _)
        · exact Nat.le_succ _

/-- `InteractiveGoalRequest()`, angles in degrees; `none` when it returns before `set_goal`. -/
def interactiveGoalRequest [Mul K] [Div K] [OfNat K 180] (mPi : K) (env : Env K)
    (input : List String) : Option (List K) × List String :=
  let r := goalFields env [] input
  (r.1.map fun goal => goal.mapIdx fun i g => if 3 ≤ i then g * (mPi / 180) else g, r.2)

/-- `MyServiceTransaction::SendWaitReceive`, with the request it finds in `m_user_request`. -/
def sendWaitReceive (r : UserRequest K) : List (ChannelOp K) :=
  [.enqueue (.userRequest r), .sendWait, .receiveWait]

/-- The commands whose block sends one request of no arguments and waits for the reply. -/
def simpleRequest? : String → Option (UserRequest K)
  | "pos" => some .getPos
  | "endpos" => some .getEndPos
  | "vel" => some .getVel
  | "tau" => some .getTorques
  | "float" => some .floatCommand
  | "activate" => some .activateCommand
  | _ => none

namespace UserProcess

/-- The end of each request block: enqueue `m_user_request` and wait for the reply. -/
def transaction (s : UserProcess K) (r : UserRequest K) (rest : List String) : StepResult K :=
  ⟨true, { s with userRequest := r }, rest, sendWaitReceive r⟩

/-- `GetBehaviorList()`, asking the directory while the cache is empty; `none` is its throw. -/
def getBehaviorList (env : Env K) (s : UserProcess K) :
    Option (List String) × UserProcess K × List (ChannelOp K) :=
  if s.lazyBehaviorList.isEmpty then
    let s := { s with userRequest := .listBehaviors }
    match env.listBehaviors with
    | some l => (some l, { s with lazyBehaviorList := l }, sendWaitReceive .listBehaviors)
    | none => (none, s, sendWaitReceive .listBehaviors)
  else (some s.lazyBehaviorList, s, [])

/-- The `b` and `B` block: switch to a valid behavior number and send the task spec, no reply. -/
def selectBehavior (env : Env K) (s : UserProcess K) (token : String) (line : List Char)
    (rest : List String) : StepResult K :=
  match env.readInt line with
  | none => ⟨true, s, rest, []⟩
  | some (bnum, _) =>
    if bnum < 0 then ⟨true, s, rest, []⟩ else
    let b := s.getBehaviorList env
    match b.1 with
    | none => ⟨false, b.2.1, rest, b.2.2⟩
    | some list =>
      if (list.length : ℤ) ≤ bnum then ⟨true, b.2.1, rest, b.2.2⟩
      else if token = "b" ∧ bnum = b.2.1.taskSpec.behaviorID.toNat then
        ⟨true, b.2.1, rest, b.2.2⟩
      else
        let spec : TaskSpec := ⟨b.2.1.taskSpec.requestID + 1, BitVec.ofInt 8 bnum⟩
        ⟨true, { b.2.1 with taskSpec := spec }, rest,
          b.2.2 ++ [.enqueue (.taskSpec spec), .sendWait]⟩

/-- A block that reads its arguments: a failed read prints a syntax error and sends nothing. -/
def withArgs (s : UserProcess K) (args : Option (List K)) (build : List K → UserRequest K)
    (rest : List String) : StepResult K :=
  match args with
  | some args => s.transaction (build args) rest
  | none => ⟨true, s, rest, []⟩

@[simp] theorem transaction_rest (s : UserProcess K) (r : UserRequest K) (rest : List String) :
    (s.transaction r rest).rest = rest := rfl

theorem selectBehavior_cases (P : StepResult K → Prop) (env : Env K) (s : UserProcess K)
    (token : String) (line : List Char) (rest : List String) (quiet : P ⟨true, s, rest, []⟩)
    (listed :
      ∀ goOn, P ⟨goOn, (s.getBehaviorList env).2.1, rest, (s.getBehaviorList env).2.2⟩)
    (switch : ∀ b : BitVec 8,
      let s' := (s.getBehaviorList env).2.1
      let spec : TaskSpec := ⟨s'.taskSpec.requestID + 1, b⟩
      P ⟨true, { s' with taskSpec := spec }, rest,
        (s.getBehaviorList env).2.2 ++ [.enqueue (.taskSpec spec), .sendWait]⟩) :
    P (s.selectBehavior env token line rest) := by
  unfold selectBehavior
  split
  · exact quiet
  rename_i bnum _ _
  by_cases hn : bnum < 0
  · rw [if_pos hn]; exact quiet
  rw [if_neg hn]
  dsimp only
  split
  · exact listed false
  rename_i list _
  by_cases hl : (list.length : ℤ) ≤ bnum
  · rw [if_pos hl]; exact listed true
  rw [if_neg hl]
  split
  · exact listed true
  · exact switch _

@[simp] theorem selectBehavior_rest (env : Env K) (s : UserProcess K) (token : String)
    (line : List Char) (rest : List String) : (s.selectBehavior env token line rest).rest = rest :=
  selectBehavior_cases (fun r => r.rest = rest) env s token line rest rfl (fun _ => rfl)
    (fun _ => rfl)

@[simp] theorem withArgs_rest (s : UserProcess K) (args : Option (List K))
    (build : List K → UserRequest K) (rest : List String) :
    (s.withArgs args build rest).rest = rest := by
  unfold withArgs; split <;> rfl

variable [Mul K] [Div K] [OfNat K 180]

/-- `Step` after the first token; without curses and XMLRPC, `k` and `xmlrpc` only print. -/
def command (mPi : K) (env : Env K) (s : UserProcess K) (token : String) (line : List Char)
    (rest : List String) : StepResult K :=
  match simpleRequest? token with
  | some r => s.transaction r rest
  | none =>
    if token = "go" then
      let g := interactiveGoalRequest mPi env rest
      s.transaction (g.1.elim s.userRequest .setGoal) g.2
    else if token = "b?" then
      let b := s.getBehaviorList env
      ⟨b.1.isSome, b.2.1, rest, b.2.2⟩
    else if token = "b" ∨ token = "B" then s.selectBehavior env token line rest
    else if token = "setgoal" then s.withArgs (readDoubles env 7 line) .setGoal rest
    else if token = "r" then
      ⟨true, { s with userRequest := .toggleRecorder }, rest, [.sendWait, .receiveWait]⟩
    else if token = "setgains" then s.withArgs (readDoubles env 4 line) .setGains rest
    else ⟨true, s, rest, []⟩

/-- `Step()`: read a line, and run its command. A failed `getline` ends the session. -/
def step (mPi : K) (env : Env K) (s : UserProcess K) : List String → StepResult K
  | [] => ⟨false, s, [], []⟩
  | buffer :: rest =>
    if buflen ≤ buffer.utf8ByteSize then ⟨false, s, [], []⟩ else
    match readToken (lineStream buffer) with
    | none => ⟨true, s, rest, []⟩
    | some (token, line) => s.command mPi env token line rest

/-! ### Sessions -/

theorem command_cases (P : StepResult K → Prop) (mPi : K) (env : Env K) (s : UserProcess K)
    (token : String) (line : List Char) (rest : List String)
    (simple : ∀ r, simpleRequest? token = some r → P (s.transaction r rest))
    (goal : P (s.transaction ((interactiveGoalRequest mPi env rest).1.elim s.userRequest .setGoal)
      (interactiveGoalRequest mPi env rest).2))
    (list : P ⟨(s.getBehaviorList env).1.isSome, (s.getBehaviorList env).2.1, rest,
      (s.getBehaviorList env).2.2⟩)
    (behavior : P (s.selectBehavior env token line rest))
    (setGoal : P (s.withArgs (readDoubles env 7 line) .setGoal rest))
    (recorder :
      P ⟨true, { s with userRequest := .toggleRecorder }, rest, [.sendWait, .receiveWait]⟩)
    (setGains : P (s.withArgs (readDoubles env 4 line) .setGains rest))
    (quiet : P ⟨true, s, rest, []⟩) :
    P (s.command mPi env token line rest) := by
  unfold command
  split
  · next r hr => exact simple r hr
  by_cases go : token = "go"
  · rw [if_pos go]; exact goal
  rw [if_neg go]
  by_cases bq : token = "b?"
  · rw [if_pos bq]; exact list
  rw [if_neg bq]
  by_cases b : token = "b" ∨ token = "B"
  · rw [if_pos b]; exact behavior
  rw [if_neg b]
  by_cases sg : token = "setgoal"
  · rw [if_pos sg]; exact setGoal
  rw [if_neg sg]
  by_cases r : token = "r"
  · rw [if_pos r]; exact recorder
  rw [if_neg r]
  by_cases sn : token = "setgains"
  · rw [if_pos sn]; exact setGains
  rw [if_neg sn]
  exact quiet

theorem command_rest_length (mPi : K) (env : Env K) (s : UserProcess K) (token : String)
    (line : List Char) (rest : List String) :
    (s.command mPi env token line rest).rest.length ≤ rest.length :=
  command_cases (fun c => c.rest.length ≤ rest.length) mPi env s token line rest
    (fun _ _ => le_rfl) (goalFields_rest_length env [] rest) le_rfl
    (congrArg List.length (selectBehavior_rest ..)).le
    (congrArg List.length (withArgs_rest ..)).le le_rfl
    (congrArg List.length (withArgs_rest ..)).le le_rfl

theorem step_rest_length {mPi : K} {env : Env K} {s : UserProcess K} {input : List String}
    (h : (s.step mPi env input).goOn = true) :
    (s.step mPi env input).rest.length < input.length := by
  cases input with
  | nil => simp [step] at h
  | cons buffer rest =>
    simp only [step] at h ⊢
    split_ifs at h ⊢
    split
    · exact Nat.lt_succ_self _
    · exact Nat.lt_succ_of_le (command_rest_length ..)

/-- The main loop: `Step` runs until it returns `false`. -/
def session (mPi : K) (env : Env K) (s : UserProcess K) (input : List String) :
    List (ChannelOp K) :=
  let r := s.step mPi env input
  if _ : r.goOn then r.ops ++ session mPi env r.state r.rest else r.ops
termination_by input.length
decreasing_by exact step_rest_length ‹_›

/-! ### What a step sends -/

/-- `r` sends and waits without enqueuing; an aborted `go` resends the previous request. -/
theorem step_recorder_and_aborted_goal (mPi : K) (env : Env K) (s : UserProcess K)
    (rest : List String) :
    (s.step mPi env ("r" :: rest)).ops = [.sendWait, .receiveWait] ∧
      (s.step mPi env ("r" :: rest)).state.userRequest = .toggleRecorder ∧
      (s.step mPi env ["go"]).ops =
        [.enqueue (.userRequest s.userRequest), .sendWait, .receiveWait] :=
  ⟨rfl, rfl, rfl⟩

end UserProcess

def taskSpecIDs (ops : List (ChannelOp K)) : List (BitVec 8) :=
  ops.filterMap fun
    | .enqueue (.taskSpec t) => some t.requestID
    | _ => none

@[simp] theorem taskSpecIDs_append (ops ops' : List (ChannelOp K)) :
    taskSpecIDs (ops ++ ops') = taskSpecIDs ops ++ taskSpecIDs ops' :=
  List.filterMap_append ..

namespace UserProcess

/-- One step sends no task spec, or sends one with the next request ID. -/
def TaskSpecStep (s : UserProcess K) (r : StepResult K) : Prop :=
  taskSpecIDs r.ops = [] ∧ r.state.taskSpec.requestID = s.taskSpec.requestID ∨
    taskSpecIDs r.ops = [s.taskSpec.requestID + 1] ∧
      r.state.taskSpec.requestID = s.taskSpec.requestID + 1

theorem getBehaviorList_taskSpec (env : Env K) (s : UserProcess K) :
    (s.getBehaviorList env).2.1.taskSpec = s.taskSpec ∧
      taskSpecIDs (s.getBehaviorList env).2.2 = [] := by
  unfold getBehaviorList
  split
  · split <;> exact ⟨rfl, rfl⟩
  · exact ⟨rfl, rfl⟩

theorem transaction_taskSpecStep (s : UserProcess K) (r : UserRequest K) (rest : List String) :
    TaskSpecStep s (s.transaction r rest) :=
  .inl ⟨rfl, rfl⟩

theorem withArgs_taskSpecStep (s : UserProcess K) (args : Option (List K))
    (build : List K → UserRequest K) (rest : List String) :
    TaskSpecStep s (s.withArgs args build rest) := by
  unfold withArgs
  split
  · exact transaction_taskSpecStep ..
  · exact .inl ⟨rfl, rfl⟩

theorem selectBehavior_taskSpecStep (env : Env K) (s : UserProcess K) (token : String)
    (line : List Char) (rest : List String) :
    TaskSpecStep s (s.selectBehavior env token line rest) := by
  obtain ⟨hs, ho⟩ := getBehaviorList_taskSpec env s
  refine selectBehavior_cases (TaskSpecStep s) env s token line rest (.inl ⟨rfl, rfl⟩)
    (fun _ => .inl ⟨ho, congrArg TaskSpec.requestID hs⟩) (fun _ => .inr ⟨?_, ?_⟩)
  · rw [taskSpecIDs_append, ho]
    simp [taskSpecIDs, hs]
  · simp [hs]

variable [Mul K] [Div K] [OfNat K 180]

theorem command_taskSpecStep (mPi : K) (env : Env K) (s : UserProcess K) (token : String)
    (line : List Char) (rest : List String) :
    TaskSpecStep s (s.command mPi env token line rest) := by
  obtain ⟨hs, ho⟩ := getBehaviorList_taskSpec env s
  exact command_cases (TaskSpecStep s) mPi env s token line rest
    (fun r _ => transaction_taskSpecStep s r rest) (transaction_taskSpecStep ..)
    (.inl ⟨ho, congrArg TaskSpec.requestID hs⟩) (selectBehavior_taskSpecStep ..)
    (withArgs_taskSpecStep ..) (.inl ⟨rfl, rfl⟩) (withArgs_taskSpecStep ..)
    (.inl ⟨rfl, rfl⟩)

theorem step_taskSpecStep (mPi : K) (env : Env K) (s : UserProcess K) (input : List String) :
    TaskSpecStep s (s.step mPi env input) := by
  cases input with
  | nil => exact .inl ⟨rfl, rfl⟩
  | cons buffer rest =>
    simp only [step]
    split_ifs
    · exact .inl ⟨rfl, rfl⟩
    · split
      · exact .inl ⟨rfl, rfl⟩
      · exact command_taskSpecStep ..

/-- Over a session the task specs go out with consecutive request IDs, modulo 256. -/
theorem session_taskSpecIDs (mPi : K) (env : Env K) (s : UserProcess K) (input : List String) :
    ∃ n, taskSpecIDs (s.session mPi env input) =
      (List.range n).map fun i => s.taskSpec.requestID + BitVec.ofNat 8 (i + 1) := by
  induction s, input using session.induct mPi env with
  | case1 s input r hgo ih =>
    obtain ⟨n, hn⟩ := ih
    simp only [r] at hgo hn
    rw [session, dif_pos hgo, taskSpecIDs_append, hn]
    rcases step_taskSpecStep mPi env s input with ⟨ho, hid⟩ | ⟨ho, hid⟩
    · exact ⟨n, by rw [ho, hid, List.nil_append]⟩
    · refine ⟨n + 1, ?_⟩
      rw [ho, hid, List.range_succ_eq_map, List.map_cons, List.map_map, List.singleton_append]
      refine congrArg₂ List.cons rfl (List.map_congr_left fun i _ => ?_)
      show _ = s.taskSpec.requestID + BitVec.ofNat 8 (i + 1 + 1)
      bv_omega
  | case2 s input r hgo =>
    simp only [r] at hgo
    rw [session, dif_neg hgo]
    rcases step_taskSpecStep mPi env s input with ⟨ho, -⟩ | ⟨ho, -⟩
    · exact ⟨0, ho⟩
    · exact ⟨1, by rw [ho]; rfl⟩

end UserProcess

/-! ### The session's traffic -/

/-- A request and its reply, a task spec alone, or the `r` command's send and receive. -/
inductive Exchange (K : Type)
  | request (r : UserRequest K)
  | taskSpec (t : TaskSpec)
  | poll

def Exchange.ops : Exchange K → List (ChannelOp K)
  | .request r => sendWaitReceive r
  | .taskSpec t => [.enqueue (.taskSpec t), .sendWait]
  | .poll => [.sendWait, .receiveWait]

def Exchanges (ops : List (ChannelOp K)) : Prop :=
  ∃ xs : List (Exchange K), ops = xs.flatMap Exchange.ops

namespace Exchanges

theorem nil : Exchanges ([] : List (ChannelOp K)) := ⟨[], rfl⟩

theorem single (x : Exchange K) : Exchanges x.ops := ⟨[x], by simp [List.flatMap]⟩

end Exchanges

namespace UserProcess

variable [Mul K] [Div K] [OfNat K 180]

end UserProcess

/-! ### A transport that throws -/

section Cut
variable {throws : ℕ → Bool} {op : ChannelOp K} {ops : List (ChannelOp K)} {k : ℕ}

end Cut

namespace UserProcess

variable [Mul K] [Div K] [OfNat K 180]

end UserProcess

namespace UserProcess

variable [Mul K] [Div K] [OfNat K 180]

end UserProcess

/-! ### The requests sent -/

namespace UserProcess

/-! ### The behavior list is asked for once -/

section
variable [Mul K] [Div K] [OfNat K 180]

end

end UserProcess

end WholeBodyControl.Wbcrun
