import XoaProxy.Lifecycle.Deadline
import XoaProxy.Lifecycle.Shutdown

namespace XoaProxy
namespace Lifecycle

/-!
# Socket activation

`listener` takes over the descriptor that it was activated with, or binds an
address of its own.  A `Call` keeps the record of what it did to the sockets of
the process also when it fails.  `Listened` is everything that a call of
`listener` can be.

A variable that is set but is no Unicode reads like one that is unset.
`Readable` environments are those in which this does not hide that there is
activation metadata.
-/

/-- The listening socket of the process: bound by itself, or descriptor 3. -/
inductive Socket where
  | own
  | inherited
deriving DecidableEq

/-- What a call does to sockets. -/
inductive Effect where
  | bind (address : Text) (port : Nat)
  | adopt
  | close (socket : Socket)
deriving DecidableEq

/-- An error of the process itself, or of the system with its code. -/
inductive Failure where
  | activation (message : Text)
  | system (context : Option Text) (code : Nat)
deriving DecidableEq

abbrev Call := ExceptT Failure (StateM (List Effect))

/-- The result of a call, and what was done on the way. -/
def outcome {Result : Type} (call : Call Result) : Except Failure Result × List Effect :=
  call.run.run []

theorem outcome_bind {First Second : Type} (call : Call First) (next : First -> Call Second) :
    outcome (call >>= next) =
      match outcome call with
      | (.error failure, effects) => (.error failure, effects)
      | (.ok result, effects) => (next result).run.run effects := by
  simp only [outcome, ExceptT.run_bind, StateT.run_bind]
  rcases call.run.run [] with ⟨result, effects⟩
  cases result with
  | error failure => rfl
  | ok result => rfl

/-- The answers of the operating system. -/
structure Os where
  processId : Nat
  bind : Text -> Nat -> Except Nat Unit
  localAddr : Socket -> Except Nat Text
  setNonblocking : Except Nat Unit
  fromStd : Except Nat Unit

def perform (effect : Effect) : Call Unit :=
  modify fun effects => effects ++ [effect]

def answer {Result : Type} (context : Option Text) : Except Nat Result -> Call Result
  | .ok result => return result
  | .error code => throw (.system context code)

/-- A socket is closed when the call that holds it fails. -/
def holding {Result : Type} (socket : Socket) (body : Call Result) : Call Result :=
  tryCatch body fun failure => do
    perform (.close socket)
    throw failure

/-! ## The listener and its process -/

/-- The message for metadata of another process or of several sockets. -/
def expectedActivation : Text :=
  "Expected LISTEN_PID for this process and exactly one LISTEN_FDS socket".toList

def notIpSocket : Text := "Activated fd 3 is not an IP socket".toList

/-- The socket to serve, and whether the process was activated with it. -/
def listener (os : Os) (environment : Environment) (bind : Text) (port : Nat) :
    Call (Socket × Bool) :=
  let pid := envVar environment.listenPid
  let fds := envVar environment.listenFds
  if pid.isNone && fds.isNone then do
    perform (.bind bind port)
    answer none (os.bind bind port)
    return (.own, false)
  else if pid.bind (parseUnsigned UInt32.size) ≠ some os.processId ∨ fds ≠ some "1".toList then
    throw (.activation expectedActivation)
  else do
    perform .adopt
    holding .inherited do
      let _ ← answer (some notIpSocket) (os.localAddr .inherited)
      answer none os.setNonblocking
      answer none os.fromStd
      return (.inherited, true)

/-- A process that serves a socket.  Its shutdown future waits for the idle
future only if it was activated. -/
structure Served where
  socket : Socket
  activated : Bool
  idleTimeout : Duration
deriving DecidableEq

def Served.machine (served : Served) : Machine Server Occurrence :=
  server served.activated served.idleTimeout.ticks

/-- The part of `main` that listens. -/
def main (os : Os) (environment : Environment) : Call Served := do
  let config := Config.load environment
  let (socket, activated) ← listener os environment config.bind config.port
  holding socket do
    let _ ← answer none (os.localAddr socket)
    return ⟨socket, activated, config.idleTimeout⟩

/-- The idle exit is armed: some run of the process comes to a poll that
completes the idle branch. -/
def Served.Armed (served : Served) : Prop :=
  Exists fun state => served.machine.Reachable state ∧
    Fires served.activated served.idleTimeout.ticks state

def Unset (environment : Environment) : Prop :=
  environment.listenPid = none ∧ environment.listenFds = none

/-- Exactly one socket is passed to this process. -/
structure Valid (os : Os) (environment : Environment) : Prop where
  pid : Exists fun text => environment.listenPid = some (encode text) ∧
    parseUnsigned UInt32.size text = some os.processId
  fds : environment.listenFds = some (encode "1".toList)

def IpSocket (os : Os) : Prop :=
  Exists fun address => os.localAddr .inherited = .ok address

/-- Neither variable reads as a text. -/
def Unread (environment : Environment) : Prop :=
  envVar environment.listenPid = none ∧ envVar environment.listenFds = none

/-- What reads as no metadata is no metadata. -/
def Readable (environment : Environment) : Prop :=
  Unread environment -> Unset environment

theorem valid_iff (os : Os) (environment : Environment) :
    Valid os environment ↔
      (envVar environment.listenPid).bind (parseUnsigned UInt32.size) = some os.processId ∧
        envVar environment.listenFds = some "1".toList := by
  simp only [Option.bind_eq_some_iff, envVar_eq_some_iff]
  exact ⟨fun valid => ⟨valid.pid, valid.fds⟩, fun read => ⟨read.1, read.2⟩⟩

theorem Unset.unread {environment : Environment} (unset : Unset environment) :
    Unread environment := by
  rw [Unread, unset.1, unset.2]
  exact ⟨rfl, rfl⟩

theorem Valid.not_unread {os : Os} {environment : Environment} (valid : Valid os environment) :
    ¬ Unread environment := by
  rintro ⟨_, unread⟩
  rw [((valid_iff os environment).mp valid).2] at unread
  cases unread

inductive Listened (os : Os) (environment : Environment) (bind : Text) (port : Nat) :
    Except Failure (Socket × Bool) × List Effect -> Prop
  | bound (unread : Unread environment) :
      Listened os environment bind port (.ok (.own, false), [.bind bind port])
  | refused (unread : Unread environment) (code : Nat) :
      Listened os environment bind port (.error (.system none code), [.bind bind port])
  | rejected (read : ¬ Unread environment) (invalid : ¬ Valid os environment) :
      Listened os environment bind port (.error (.activation expectedActivation), [])
  | foreign (valid : Valid os environment) (foreign : ¬ IpSocket os) (code : Nat) :
      Listened os environment bind port
        (.error (.system (some notIpSocket) code), [.adopt, .close .inherited])
  | unready (valid : Valid os environment) (ip : IpSocket os) (code : Nat) :
      Listened os environment bind port
        (.error (.system none code), [.adopt, .close .inherited])
  | inherited (valid : Valid os environment) (ip : IpSocket os) :
      Listened os environment bind port (.ok (.inherited, true), [.adopt])

/-- The branch behind the check of the metadata. -/
theorem listener_valid {os : Os} {environment : Environment} (valid : Valid os environment)
    (bind : Text) (port : Nat) :
    Listened os environment bind port (outcome (listener os environment bind port)) := by
  rcases (valid_iff os environment).mp valid with ⟨pid, fds⟩
  have present : (envVar environment.listenFds).isNone = false := by rw [fds]; rfl
  rw [listener, present, Bool.and_false, if_neg Bool.false_ne_true, pid, fds,
    if_neg (by simp only [ne_eq, not_true_eq_false, or_self, not_false_eq_true])]
  cases address : os.localAddr .inherited with
  | error code =>
      refine .foreign valid ?_ code
      rintro ⟨known, ip⟩
      rw [address] at ip
      cases ip
  | ok known =>
      have ip : IpSocket os := ⟨known, address⟩
      cases os.setNonblocking with
      | error code => exact .unready valid ip code
      | ok =>
          cases os.fromStd with
          | error code => exact .unready valid ip code
          | ok => exact .inherited valid ip

theorem listener_listened (os : Os) (environment : Environment) (bind : Text) (port : Nat) :
    Listened os environment bind port (outcome (listener os environment bind port)) := by
  by_cases valid : Valid os environment
  · exact listener_valid valid bind port
  · have branch : ((envVar environment.listenPid).isNone &&
        (envVar environment.listenFds).isNone) = true ↔ Unread environment := by
      rw [Bool.and_eq_true, Option.isNone_iff_eq_none, Option.isNone_iff_eq_none]
      rfl
    rw [listener]
    split
    · rename_i unread
      cases os.bind bind port with
      | error code => exact .refused (branch.mp unread) code
      | ok => exact .bound (branch.mp unread)
    · rename_i read
      have mismatch := valid
      rw [valid_iff, not_and_or] at mismatch
      rw [if_pos mismatch]
      exact .rejected (fun unread => read (branch.mpr unread)) valid

/-- What `main` makes of a call of the listener. -/
inductive Launched (os : Os) (environment : Environment) :
    Except Failure (Socket × Bool) × List Effect -> Except Failure Served × List Effect -> Prop
  | failed (failure : Failure) (effects : List Effect) :
      Launched os environment (.error failure, effects) (.error failure, effects)
  | unnamed (socket : Socket) (activated : Bool) (effects : List Effect) (code : Nat) :
      Launched os environment (.ok (socket, activated), effects)
        (.error (.system none code), effects ++ [.close socket])
  | serving (socket : Socket) (activated : Bool) (effects : List Effect) :
      Launched os environment (.ok (socket, activated), effects)
        (.ok ⟨socket, activated, (Config.load environment).idleTimeout⟩, effects)

theorem main_launched (os : Os) (environment : Environment) :
    Launched os environment
      (outcome (listener os environment (Config.load environment).bind
        (Config.load environment).port))
      (outcome (main os environment)) := by
  rw [main, outcome_bind]
  rcases outcome (listener os environment (Config.load environment).bind
    (Config.load environment).port) with ⟨result, effects⟩
  cases result with
  | error failure => exact .failed failure effects
  | ok found =>
      rcases found with ⟨socket, activated⟩
      change Launched os environment _ ((holding socket do
        let _ ← answer none (os.localAddr socket)
        return ⟨socket, activated, (Config.load environment).idleTimeout⟩).run.run effects)
      cases os.localAddr socket with
      | error code => exact .unnamed socket activated effects code
      | ok known => exact .serving socket activated effects

/-- Without activation no poll completes the idle branch. -/
theorem not_fires_standalone (timeout : Nat) (state : Server) : ¬ Fires false timeout state := by
  rintro ⟨serving, fires⟩
  change state.mode = _ at fires
  rw [serving] at fires
  cases fires

/-- A process whose idle future was polled once, a timeout ago. -/
def leftAlone (timeout : Nat) : Server where
  connections := []
  tracker := Tracker.after timeout [.poll 0]
  clock := timeout
  mode := .serving

theorem leftAlone_reachable {timeout : Nat} (positive : 0 < timeout) :
    (server true timeout).Reachable (leftAlone timeout) := by
  refine ⟨[.pollShutdown, .tick timeout], ?_⟩
  have unpolled : (Tracker.after timeout []).idle ≠ .returned := nofun
  have waiting : (Tracker.after timeout [.poll 0]).idle ≠ .returned := by
    rw [Ne, ← List.nil_append [Event.poll 0], poll_returned_iff unpolled, quiet_iff]
    rintro ⟨_, due⟩
    change 0 + timeout ≤ 0 at due
    omega
  have polled : Server.initial.step true timeout .pollShutdown =
      some ⟨[], Tracker.after timeout [.poll 0], 0, .serving⟩ := by
    have serving : Server.initial.mode = .serving := rfl
    rw [Server.step, if_pos serving, Server.pollShutdown, if_pos rfl]
    exact congrArg some (congrArg (Server.mk [] _ 0) (if_neg waiting))
  rw [Machine.run_cons_eq_some_iff]
  refine ⟨_, polled, ?_⟩
  rw [Machine.run_singleton_eq_some_iff]
  change some (Server.mk [] _ (0 + timeout) .serving) = _
  rw [Nat.zero_add]
  rfl

/-- With activation the process exits when it is left alone. -/
theorem leftAlone_fires {timeout : Nat} (positive : 0 < timeout) :
    Fires true timeout (leftAlone timeout) := by
  rw [fires_iff_quiet (leftAlone_reachable positive) rfl]
  refine ⟨rfl, rfl, (quiet_iff timeout [.poll 0] timeout).mpr ⟨rfl, ?_⟩⟩
  exact (Nat.zero_add timeout).le

theorem Served.armed_iff {served : Served} (positive : 0 < served.idleTimeout.ticks) :
    served.Armed ↔ served.activated = true := by
  rcases served with ⟨socket, activated, idleTimeout⟩
  cases activated with
  | true =>
      exact iff_of_true ⟨_, leftAlone_reachable positive, leftAlone_fires positive⟩ rfl
  | false =>
      refine iff_of_false ?_ Bool.false_ne_true
      rintro ⟨state, _, fires⟩
      exact not_fires_standalone _ state fires

/-! ## Metadata is honoured or rejected -/

section Honours

variable {os : Os} {environment : Environment} {bind : Text} {port : Nat}
  {call : Except Failure (Socket × Bool) × List Effect}

theorem Listened.bind_mem_iff (listened : Listened os environment bind port call)
    (address : Text) (number : Nat) :
    .bind address number ∈ call.2 ↔ (address = bind ∧ number = port) ∧ Unread environment := by
  cases listened with
  | bound unread =>
      simp only [List.mem_singleton, Effect.bind.injEq, unread, and_true]
  | refused unread code =>
      simp only [List.mem_singleton, Effect.bind.injEq, unread, and_true]
  | rejected read invalid => simp only [List.not_mem_nil, read, and_false]
  | foreign valid foreign code | unready valid ip code | inherited valid ip =>
      simp only [List.mem_cons, reduceCtorEq, List.not_mem_nil, or_self, valid.not_unread,
        and_false]

/-- The descriptor is taken over behind the check of the metadata, whatever it
is. -/
theorem Listened.adopt_mem_iff (listened : Listened os environment bind port call) :
    .adopt ∈ call.2 ↔ Valid os environment := by
  cases listened with
  | bound unread | refused unread =>
      have invalid : ¬ Valid os environment := fun valid => valid.not_unread unread
      simp only [List.mem_singleton, reduceCtorEq, invalid]
  | rejected read invalid => simp only [List.not_mem_nil, invalid]
  | foreign valid foreign code | unready valid ip code | inherited valid ip =>
      simp only [List.mem_cons, true_or, valid]

/-- What a successful call returns. -/
theorem Listened.ok {socket : Socket} {activated : Bool}
    (listened : Listened os environment bind port call) (ok : call.1 = .ok (socket, activated)) :
    (socket = .own ∧ activated = false ∧ Unread environment) ∨
      (socket = .inherited ∧ activated = true ∧ Valid os environment ∧ IpSocket os) := by
  cases listened with
  | bound unread => cases ok; exact Or.inl ⟨rfl, rfl, unread⟩
  | inherited valid ip => cases ok; exact Or.inr ⟨rfl, rfl, valid, ip⟩
  | refused | rejected | foreign | unready => cases ok

/-- A failed call has closed what it took over. -/
theorem Listened.released {failure : Failure}
    (listened : Listened os environment bind port call) (failed : call.1 = .error failure)
    (adopted : .adopt ∈ call.2) : .close .inherited ∈ call.2 := by
  cases listened with
  | bound unread | inherited valid ip => cases failed
  | refused unread code => simp only [List.mem_singleton, reduceCtorEq] at adopted
  | rejected read invalid => cases adopted
  | foreign valid foreign code | unready valid ip code =>
      exact List.mem_cons_of_mem _ List.mem_cons_self

end Honours

section Launches

variable {os : Os} {environment : Environment}
  {call : Except Failure (Socket × Bool) × List Effect}
  {process : Except Failure Served × List Effect}

/-- `main` binds what its listener binds. -/
theorem Launched.bind_mem_iff (launched : Launched os environment call process)
    (address : Text) (number : Nat) :
    .bind address number ∈ process.2 ↔ .bind address number ∈ call.2 := by
  cases launched with
  | failed failure effects | serving socket activated effects => rfl
  | unnamed socket activated effects code =>
      simp only [List.mem_append, List.mem_singleton, reduceCtorEq, or_false]

/-- The process serves the socket of its listener. -/
theorem Launched.ok {served : Served} (launched : Launched os environment call process)
    (ok : process.1 = .ok served) :
    call.1 = .ok (served.socket, served.activated) ∧
      served.idleTimeout = (Config.load environment).idleTimeout := by
  cases launched with
  | failed failure effects | unnamed socket activated effects code => cases ok
  | serving socket activated effects => cases ok; exact ⟨rfl, rfl⟩

end Launches

/-- The listener binds its own address only without metadata, takes descriptor 3
over only if it is the one socket passed to this process, and fails otherwise
without having done either. -/
structure ListenerHonours (os : Os) (environment : Environment) (bind : Text) (port : Nat) :
    Prop where
  binds : .bind bind port ∈ (outcome (listener os environment bind port)).2 ↔ Unset environment
  adopts : .adopt ∈ (outcome (listener os environment bind port)).2 ↔
    Valid os environment ∧ IpSocket os
  rejects : ¬ Unset environment -> ¬ (Valid os environment ∧ IpSocket os) ->
    (Exists fun failure => (outcome (listener os environment bind port)).1 = .error failure) ∧
      (forall address number,
        .bind address number ∉ (outcome (listener os environment bind port)).2) ∧
      .adopt ∉ (outcome (listener os environment bind port)).2

/-- The idle exit belongs to the inherited socket, and with invalid metadata the
process never listens on a port of its own. -/
structure MainHonours (os : Os) (environment : Environment) : Prop where
  armed : forall served, (outcome (main os environment)).1 = .ok served ->
    (served.Armed ↔ served.socket = .inherited)
  loyal : ¬ Unset environment -> ¬ Valid os environment ->
    (forall address number, .bind address number ∉ (outcome (main os environment)).2) ∧
      forall served, (outcome (main os environment)).1 = .ok served -> served.socket ≠ .own

structure Honoured (os : Os) (environment : Environment) : Prop where
  listener : forall bind port, ListenerHonours os environment bind port
  main : MainHonours os environment

theorem listenerHonours {os : Os} {environment : Environment} (readable : Readable environment)
    (ip : Valid os environment -> IpSocket os) (bind : Text) (port : Nat) :
    ListenerHonours os environment bind port := by
  have listened := listener_listened os environment bind port
  generalize called : outcome (listener os environment bind port) = call at listened
  have bound := listened.bind_mem_iff
  have adopted := listened.adopt_mem_iff
  rw [← called] at bound adopted
  constructor
  · rw [bound]
    exact ⟨fun found => readable found.2, fun unset => ⟨⟨rfl, rfl⟩, unset.unread⟩⟩
  · rw [adopted]
    exact ⟨fun valid => ⟨valid, ip valid⟩, And.left⟩
  · intro metadata unfit
    have invalid : ¬ Valid os environment := fun valid => unfit ⟨valid, ip valid⟩
    have read : ¬ Unread environment := fun unread => metadata (readable unread)
    refine ⟨?_, fun address number found => read ((bound address number).mp found).2,
      fun found => invalid (adopted.mp found)⟩
    rw [called]
    cases result : call.1 with
    | error failure => exact ⟨failure, rfl⟩
    | ok found =>
        rcases listened.ok result with ⟨_, _, unread⟩ | ⟨_, _, valid, _⟩
        · exact absurd unread read
        · exact absurd valid invalid

theorem idleTimeout_positive (environment : Environment) :
    0 < (Config.load environment).idleTimeout.ticks := by
  have positive := (idleSeconds_spec environment.idleSeconds).1
  change 0 < (Duration.fromSecs _ _).ticks
  rw [ticks_fromSecs]
  exact Nat.mul_pos positive (by decide)

theorem mainHonours {os : Os} {environment : Environment} (readable : Readable environment) :
    MainHonours os environment := by
  have listened := listener_listened os environment (Config.load environment).bind
    (Config.load environment).port
  have launched := main_launched os environment
  constructor
  · intro served ok
    rcases launched.ok ok with ⟨found, timeout⟩
    rw [served.armed_iff (timeout ▸ idleTimeout_positive environment)]
    rcases listened.ok found with ⟨socket, activated, _⟩ | ⟨socket, activated, _⟩
    · simp only [socket, activated, Bool.false_eq_true, reduceCtorEq]
    · simp only [socket, activated]
  · intro metadata invalid
    have read : ¬ Unread environment := fun unread => metadata (readable unread)
    constructor
    · intro address number found
      rw [launched.bind_mem_iff] at found
      exact read ((listened.bind_mem_iff address number).mp found).2
    · intro served ok own
      rcases listened.ok (launched.ok ok).1 with ⟨_, _, unread⟩ | ⟨socket, _⟩
      · exact read unread
      · rw [own] at socket
        cases socket

/-- Activation metadata is honoured or rejected exactly if variables that are
set do not both read as unset, and the socket passed to this process is an IP
socket. -/
theorem honoured_iff (os : Os) (environment : Environment) :
    Honoured os environment ↔
      Readable environment ∧ (Valid os environment -> IpSocket os) := by
  constructor
  · intro honoured
    have listens := honoured.listener [] 0
    have listened := listener_listened os environment [] 0
    constructor
    · intro unread
      exact listens.binds.mp ((listened.bind_mem_iff [] 0).mpr ⟨⟨rfl, rfl⟩, unread⟩)
    · intro valid
      exact (listens.adopts.mp (listened.adopt_mem_iff.mpr valid)).2
  · rintro ⟨readable, ip⟩
    exact ⟨listenerHonours readable ip, mainHonours readable⟩

/-- A process identifier that is no Unicode, and no count of sockets. -/
def garbledPid : Environment where
  port := none
  bind := none
  idleSeconds := none
  listenPid := some [0xFF]
  listenFds := none

/-- A system that grants every call. -/
def generousOs : Os where
  processId := 1
  bind := fun _ _ => .ok ()
  localAddr := fun _ => .ok "127.0.0.1:9001".toList
  setNonblocking := .ok ()
  fromStd := .ok ()

/-- The garbled identifier is ignored: the process binds the address of its
configuration and serves it. -/
theorem garbledPid_ignored :
    (outcome (main generousOs garbledPid) =
      (.ok ⟨.own, false, .fromSecs 60 (by decide)⟩, [.bind "127.0.0.1".toList 9001])) ∧
    ¬ Honoured generousOs garbledPid := by
  have unread : Unread garbledPid := ⟨by decide, rfl⟩
  have bound : outcome (listener generousOs garbledPid "127.0.0.1".toList 9001) =
      (.ok (.own, false), [.bind "127.0.0.1".toList 9001]) := by
    rw [listener, unread.1, unread.2]
    rfl
  constructor
  · have address : (Config.load garbledPid).bind = "127.0.0.1".toList := rfl
    have port : (Config.load garbledPid).port = 9001 := rfl
    rw [main, outcome_bind, address, port, bound]
    rfl
  · intro honoured
    have unset := (honoured.listener "127.0.0.1".toList 9001).binds.mp (by
      rw [bound]
      exact List.mem_singleton_self _)
    cases unset.1

end Lifecycle
end XoaProxy
