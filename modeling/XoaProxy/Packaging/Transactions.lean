import XoaProxy.Packaging.Scriptlets

namespace XoaProxy
namespace Packaging

open Interference

/-!
# Transactions settle the host

Every transaction is proved command by command, with connections and imports in
between.  `Stage` is the assertion of nearly all of its points: everything but
the process is known, and a process is activated if the socket listens.

A history is any sequence of transactions and reboots.  Between two of them the
host is what the installed package asks for.  No import is cut off, unless
0.1.2 is removed while it imports: its unit does not wait longer than 90 s.
-/

/-- Only the process is not known.  It has the socket, if that listens. -/
def Stage (files loaded : Option Package) (socketEnabled serviceEnabled listening cut : Bool)
    (host : Host) : Prop :=
  Exists fun process =>
    (forall running, process = some running -> running.activated = listening) ∧
      host = ⟨files, loaded, socketEnabled, serviceEnabled, listening, process, cut⟩

/-- The socket does not listen and there is no process. -/
def Bare (files loaded : Option Package) (socketEnabled serviceEnabled cut : Bool)
    (host : Host) : Prop :=
  host = ⟨files, loaded, socketEnabled, serviceEnabled, false, none, cut⟩

def Absent (cut : Bool) : Host -> Prop := Bare none none false false cut

/-- The service of 0.1.2, in any state. -/
def LegacyInstalled (cut : Bool) (host : Host) : Prop :=
  Exists fun serviceEnabled =>
    Stage (some .legacy) (some .legacy) false serviceEnabled false cut host

def Settled (cut : Bool) : Host -> Prop :=
  Stage (some .current) (some .current) true false true cut

/-- Behind the new package's scriptlet: the socket listens, or an old process
keeps its port. -/
def Handover (cut : Bool) (host : Host) : Prop :=
  Exists fun listening =>
    Stage (some .current) (some .current) true false listening cut host ∧
      (listening = false -> host.process.isSome = true)

section Stable

variable {files loaded : Option Package} {socketEnabled serviceEnabled listening cut : Bool}

/-- What an event does to a process that has the socket, or to none. -/
theorem Stage.disturb {host next : Host} {event : Event}
    (stage : Stage files loaded socketEnabled serviceEnabled listening cut host)
    (disturbed : host.disturb event = some next) :
    Stage files loaded socketEnabled serviceEnabled listening cut next ∧
      (listening = false -> host.process.isSome = true -> next.process.isSome = true) := by
  rcases stage with ⟨process, served, rfl⟩
  cases event with
  | connect =>
      simp only [Host.disturb] at disturbed
      split at disturbed
      · rename_i free
        cases disturbed
        have listens := (Bool.and_eq_true_iff.mp free).1
        subst listens
        exact ⟨⟨_, fun running same => by cases same; rfl, rfl⟩, fun _ _ => rfl⟩
      · cases disturbed
  | importBegins =>
      simp only [Host.disturb, Option.map_eq_some_iff] at disturbed
      rcases disturbed with ⟨old, rfl, rfl⟩
      exact ⟨⟨_, fun running same => by cases same; exact served old rfl, rfl⟩, fun _ _ => rfl⟩
  | importEnds =>
      simp only [Host.disturb, Option.map_eq_some_iff] at disturbed
      rcases disturbed with ⟨old, rfl, rfl⟩
      exact ⟨⟨_, fun running same => by cases same; exact served old rfl, rfl⟩, fun _ _ => rfl⟩
  | idleExit =>
      simp only [Host.disturb] at disturbed
      split at disturbed
      · rename_i idle
        cases disturbed
        refine ⟨⟨none, nofun, rfl⟩, fun closed => ?_⟩
        have activated := served _ idle
        rw [closed] at activated
        cases activated
      · cases disturbed

theorem Stage.stable :
    manager.Stable (Stage files loaded socketEnabled serviceEnabled listening cut) :=
  fun _ _ _ stage disturbed => (stage.disturb disturbed).1

theorem Bare.stable : manager.Stable (Bare files loaded socketEnabled serviceEnabled cut) := by
  rintro host event next rfl disturbed
  cases event <;> cases disturbed

theorem Handover.stable : manager.Stable (Handover cut) := by
  rintro host event next ⟨listening, stage, waits⟩ disturbed
  rcases stage.disturb disturbed with ⟨after, keeps⟩
  exact ⟨listening, after, fun closed => keeps closed (waits closed)⟩

end Stable

section Commands

variable {old files loaded : Option Package} {socketEnabled serviceEnabled listening cut : Bool}
  {host : Host}

theorem Stage.unpack (stage : Stage files loaded socketEnabled serviceEnabled listening cut host) :
    Stage (some .current) loaded socketEnabled serviceEnabled listening cut
      (manager.perform host (.unpack .current)) := by
  rcases stage with ⟨process, served, rfl⟩
  exact ⟨process, served, rfl⟩

theorem Stage.daemonReload
    (stage : Stage files loaded socketEnabled serviceEnabled listening cut host) :
    Stage files files socketEnabled serviceEnabled listening cut
      (manager.perform host (.systemctl .daemonReload)) := by
  rcases stage with ⟨process, served, rfl⟩
  exact ⟨process, served, rfl⟩

theorem Stage.disableService
    (stage : Stage files loaded socketEnabled serviceEnabled listening cut host) :
    Stage files files socketEnabled false listening cut
      (manager.perform host (.systemctl (.disable true .service))) := by
  rcases stage with ⟨process, served, rfl⟩
  exact ⟨process, served, rfl⟩

theorem Stage.enableSocket
    (stage : Stage (some .current) loaded socketEnabled serviceEnabled listening cut host) :
    Stage (some .current) (some .current) true serviceEnabled listening cut
      (manager.perform host (.systemctl (.enable .socket))) := by
  rcases stage with ⟨process, served, rfl⟩
  exact ⟨process, served, rfl⟩

/-- The socket is started, or a process keeps it from that. -/
theorem Stage.handover
    (stage : Stage (some .current) (some .current) true false listening cut host) :
    Handover cut (manager.perform host (.unlessActive .service (.start .socket))) := by
  rcases stage with ⟨process, served, rfl⟩
  cases process with
  | some running => exact ⟨listening, ⟨some running, served, rfl⟩, fun _ => rfl⟩
  | none => exact ⟨true, ⟨none, nofun, rfl⟩, nofun⟩

/-- A process is restarted with the socket in front of it.  The loaded service
file gives it all the time for its import. -/
theorem Handover.tryRestart (handover : Handover cut host) :
    Settled cut (manager.perform host (.systemctl .tryRestartService)) := by
  rcases handover with ⟨listening, ⟨process, served, rfl⟩, waits⟩
  cases process with
  | some running =>
      refine ⟨some ⟨true, false⟩, fun other same => by cases same; rfl, ?_⟩
      rcases running with ⟨activated, importing⟩
      cases importing <;> cases cut <;> rfl
  | none =>
      cases listening with
      | true => exact ⟨none, nofun, rfl⟩
      | false => cases waits rfl

theorem Settled.startSocket (settled : Settled cut host) :
    Settled cut (manager.perform host (.systemctl (.start .socket))) := by
  rcases settled with ⟨process, served, rfl⟩
  cases process <;> exact ⟨_, served, rfl⟩

end Commands

/-- The scriptlet of the new package behind its files. -/
theorem post_upgrade (old : Option Package)
    (socketEnabled serviceEnabled listening cut : Bool) :
    manager.Triple (Stage (some .current) old socketEnabled serviceEnabled listening cut) (post 2)
      (Handover cut) := by
  have script : post 2 = [.systemctl .daemonReload, .systemctl (.disable true .service),
      .systemctl (.enable .socket), .unlessActive .service (.start .socket)] := rfl
  rw [script]
  refine Triple.cons Stage.stable (fun _ => Stage.daemonReload) ?_
  refine Triple.cons Stage.stable (fun _ => Stage.disableService) ?_
  refine Triple.cons Stage.stable (fun _ => Stage.enableSocket) ?_
  refine Triple.cons Stage.stable (fun _ => Stage.handover) ?_
  exact Triple.nil Handover.stable

/-- The scriptlet of the old package, whichever it is. -/
theorem postun_upgrade (old : Package) (cut : Bool) :
    manager.Triple (Handover cut) (old.postun 1) (Settled cut) := by
  have reload : forall host, Handover cut host ->
      Handover cut (manager.perform host (.systemctl .daemonReload)) := by
    rintro host ⟨listening, ⟨process, served, rfl⟩, waits⟩
    exact ⟨listening, ⟨process, served, rfl⟩, waits⟩
  cases old with
  | legacy =>
      have script : Package.legacy.postun 1 =
          [.systemctl .daemonReload, .systemctl .tryRestartService] := rfl
      rw [script]
      refine Triple.cons Handover.stable reload ?_
      refine Triple.cons Handover.stable (fun _ => Handover.tryRestart) ?_
      exact Triple.nil Stage.stable
  | current =>
      have script : Package.current.postun 1 =
          [.systemctl .daemonReload, .systemctl .tryRestartService,
            .systemctl (.start .socket)] := rfl
      rw [script]
      refine Triple.cons Handover.stable reload ?_
      refine Triple.cons Handover.stable (fun _ => Handover.tryRestart) ?_
      refine Triple.cons Stage.stable (fun _ => Settled.startSocket) ?_
      exact Triple.nil Stage.stable

theorem upgrade_settles (old : Package) (socketEnabled serviceEnabled listening cut : Bool) :
    manager.Triple (Stage (some old) (some old) socketEnabled serviceEnabled listening cut)
      (upgrade old) (Settled cut) := by
  have preun : old.preun 1 = [] := by cases old <;> rfl
  rw [upgrade, preun, List.append_nil]
  refine Triple.cons Stage.stable (fun _ => Stage.unpack) ?_
  exact (post_upgrade _ _ _ _ cut).append (postun_upgrade old cut)

theorem install_settles (cut : Bool) :
    manager.Triple (Absent cut) install (Settled cut) := by
  have script : install = [.unpack .current, .systemctl .daemonReload,
      .systemctl (.preset [.socket, .service]), .unlessActive .service (.start .socket)] := rfl
  have unpacked : forall host, Absent cut host ->
      Bare (some .current) none false false cut (manager.perform host (.unpack .current)) := by
    rintro host rfl
    rfl
  have loaded : forall host, Bare (some .current) none false false cut host ->
      Bare (some .current) (some .current) false false cut
        (manager.perform host (.systemctl .daemonReload)) := by
    rintro host rfl
    rfl
  have presets : forall host, Bare (some .current) (some .current) false false cut host ->
      Bare (some .current) (some .current) true false cut
        (manager.perform host (.systemctl (.preset [.socket, .service]))) := by
    rintro host rfl
    rfl
  have started : forall host, Bare (some .current) (some .current) true false cut host ->
      Settled cut (manager.perform host (.unlessActive .service (.start .socket))) := by
    rintro host rfl
    exact ⟨none, nofun, rfl⟩
  rw [script]
  refine Triple.cons Bare.stable unpacked ?_
  refine Triple.cons Bare.stable loaded ?_
  refine Triple.cons Bare.stable presets ?_
  refine Triple.cons Bare.stable started ?_
  exact Triple.nil Stage.stable

/-- Whatever connects between two commands, the socket takes its process along. -/
theorem removal_settles (cut : Bool) :
    manager.Triple (Settled cut) (removal .current) (Absent cut) := by
  have script : removal .current = [.systemctl (.disable false .service),
      .systemctl (.disable false .socket), .systemctl (.stop .socket),
      .systemctl (.stop .service), .erase, .systemctl .daemonReload] := rfl
  have unwanted : forall host, Settled cut host ->
      Settled cut (manager.perform host (.systemctl (.disable false .service))) := by
    rintro host ⟨process, served, rfl⟩
    exact ⟨process, served, rfl⟩
  have disabled : forall host, Settled cut host ->
      Stage (some .current) (some .current) false false true cut
        (manager.perform host (.systemctl (.disable false .socket))) := by
    rintro host ⟨process, served, rfl⟩
    exact ⟨process, served, rfl⟩
  have closed : forall host, Stage (some .current) (some .current) false false true cut host ->
      Bare (some .current) (some .current) false false cut
        (manager.perform host (.systemctl (.stop .socket))) := by
    rintro host ⟨process, served, rfl⟩
    cases process with
    | none => rfl
    | some running =>
        rcases running with ⟨activated, importing⟩
        cases importing <;> cases cut <;> rfl
  have stopped : forall host, Bare (some .current) (some .current) false false cut host ->
      Bare (some .current) (some .current) false false cut
        (manager.perform host (.systemctl (.stop .service))) := by
    rintro host rfl
    rfl
  have erased : forall host, Bare (some .current) (some .current) false false cut host ->
      Bare none (some .current) false false cut (manager.perform host .erase) := by
    rintro host rfl
    rfl
  have forgotten : forall host, Bare none (some .current) false false cut host ->
      Absent cut (manager.perform host (.systemctl .daemonReload)) := by
    rintro host rfl
    rfl
  rw [script]
  refine Triple.cons Stage.stable unwanted ?_
  refine Triple.cons Stage.stable disabled ?_
  refine Triple.cons Stage.stable closed ?_
  refine Triple.cons Bare.stable stopped ?_
  refine Triple.cons Bare.stable erased ?_
  refine Triple.cons Bare.stable forgotten ?_
  exact Triple.nil Bare.stable

/-! ## Histories -/

inductive Transaction where
  | install
  | upgrade
  | remove
deriving DecidableEq, Repr

/-- The program of a transaction, where the installed files permit it. -/
def Transaction.program (files : Option Package) : Transaction -> Option (List Command)
  | .install => if files = none then some Packaging.install else none
  | .upgrade => files.map Packaging.upgrade
  | .remove => files.map removal

/-- A host in a transaction, or between two of them. -/
structure Progress where
  host : Host
  pending : List Command
deriving DecidableEq, Repr

inductive Label where
  | disturb (event : Event)
  | perform
  | begins (transaction : Transaction)
  | reboot
deriving DecidableEq, Repr

def Progress.step (state : Progress) : Label -> Option Progress
  | .disturb event => (state.host.disturb event).map fun host => { state with host := host }
  | .perform =>
      match state.pending with
      | [] => none
      | command :: pending => some ⟨state.host.perform command, pending⟩
  | .begins transaction =>
      if state.pending = [] then
        (transaction.program state.host.files).map fun program => ⟨state.host, program⟩
      else
        none
  | .reboot => if state.pending = [] then some ⟨state.host.reboot, []⟩ else none

/-- Everything that is done to a host. -/
def history (start : Host) : Machine Progress Label where
  initial := ⟨start, []⟩
  step := Progress.step

/-- Between two transactions. -/
def AtRest (cut : Bool) (host : Host) : Prop :=
  Absent cut host ∨ LegacyInstalled cut host ∨ Settled cut host

theorem AtRest.stable {cut : Bool} : manager.Stable (AtRest cut) := by
  rintro host event next (absent | ⟨serviceEnabled, legacy⟩ | settled) disturbed
  · exact Or.inl (Bare.stable host event next absent disturbed)
  · exact Or.inr (Or.inl ⟨serviceEnabled, Stage.stable host event next legacy disturbed⟩)
  · exact Or.inr (Or.inr (Stage.stable host event next settled disturbed))

theorem AtRest.reboot {cut : Bool} {host : Host} (rest : AtRest cut host) :
    AtRest cut host.reboot := by
  rcases rest with rfl | ⟨serviceEnabled, process, served, rfl⟩ | ⟨process, served, rfl⟩
  · exact Or.inl rfl
  · refine Or.inr (Or.inl ⟨serviceEnabled, ?_⟩)
    cases serviceEnabled with
    | true => exact ⟨some ⟨false, false⟩, fun running same => by cases same; rfl, rfl⟩
    | false => exact ⟨none, nofun, rfl⟩
  · exact Or.inr (Or.inr ⟨none, nofun, rfl⟩)

/-- A transaction leads from rest to rest and cuts off nothing, unless it is the
removal of 0.1.2. -/
theorem AtRest.transaction {cut : Bool} {host : Host} {transaction : Transaction}
    {program : List Command} (rest : AtRest cut host)
    (begun : transaction.program host.files = some program) :
    manager.Promises program (AtRest cut) host ∨
      (program = removal .legacy ∧ LegacyInstalled cut host) := by
  have settles : forall {before after : Host -> Prop} {program : List Command},
      manager.Triple before program after -> (forall final, after final -> AtRest cut final) ->
      before host -> manager.Promises program (AtRest cut) host :=
    fun triple resting holds final executed => resting final (triple host final holds executed)
  have settled : forall final, Settled cut final -> AtRest cut final :=
    fun _ holds => Or.inr (Or.inr holds)
  cases transaction with
  | install =>
      rw [Transaction.program] at begun
      split at begun
      · rename_i none
        cases begun
        rcases rest with absent | ⟨_, process, served, rfl⟩ | ⟨process, served, rfl⟩
        · exact Or.inl (settles (install_settles cut) settled absent)
        · cases none
        · cases none
      · cases begun
  | upgrade =>
      rw [Transaction.program, Option.map_eq_some_iff] at begun
      rcases begun with ⟨old, same, rfl⟩
      rcases rest with rfl | ⟨serviceEnabled, process, served, rfl⟩ | ⟨process, served, rfl⟩
      · cases same
      · cases same
        exact Or.inl (settles (upgrade_settles .legacy _ _ _ cut) settled ⟨process, served, rfl⟩)
      · cases same
        exact Or.inl (settles (upgrade_settles .current _ _ _ cut) settled ⟨process, served, rfl⟩)
  | remove =>
      rw [Transaction.program, Option.map_eq_some_iff] at begun
      rcases begun with ⟨old, same, rfl⟩
      rcases rest with rfl | ⟨serviceEnabled, process, served, rfl⟩ | ⟨process, served, rfl⟩
      · cases same
      · cases same
        exact Or.inr ⟨rfl, serviceEnabled, process, served, rfl⟩
      · cases same
        exact Or.inl (settles (removal_settles cut) (fun _ => Or.inl) ⟨process, served, rfl⟩)

/-- What does not depend on unit files. -/
def Host.runtime (host : Host) : Bool × Option Process × Bool :=
  (host.listening, host.process, host.interrupted)

theorem setEnabled_runtime (host : Host) (value : Bool) (unit : UnitName) :
    (host.setEnabled value unit).runtime = host.runtime := by
  cases unit <;> rfl

theorem enable_runtime (host : Host) (unit : UnitName) :
    (host.enable unit).runtime = host.runtime := by
  rw [Host.enable]
  split
  · exact setEnabled_runtime host true unit
  · rfl

theorem disable_runtime (host : Host) (reload : Bool) (unit : UnitName) :
    (host.disable reload unit).runtime = host.runtime := by
  cases reload <;> exact setEnabled_runtime host false unit

theorem presets_runtime (host : Host) (units : List UnitName) :
    (units.foldl Host.applyPreset host).runtime = host.runtime := by
  induction units generalizing host with
  | nil => rfl
  | cons unit units ih =>
      rw [List.foldl_cons, ih, Host.applyPreset]
      split
      · exact enable_runtime host unit
      · exact disable_runtime host true unit

section Interrupted

variable {host : Host}

theorem startSocket_interrupted (host : Host) :
    host.startSocket.interrupted = host.interrupted := by
  rw [Host.startSocket]
  split <;> rfl

theorem startService_interrupted (host : Host) :
    host.startService.interrupted = host.interrupted := by
  rw [Host.startService]
  split
  · split
    · dsimp only
      split <;> exact startSocket_interrupted host
    · rfl
  · rfl

theorem stopService_interrupted (unharmed : host.stopService.interrupted = false) :
    host.interrupted = false := by
  rw [Host.stopService] at unharmed
  split at unharmed
  · exact unharmed
  · exact (Bool.or_eq_false_iff.mp unharmed).1

theorem call_interrupted {call : Systemctl} (unharmed : (host.call call).interrupted = false) :
    host.interrupted = false := by
  cases call with
  | daemonReload => exact unharmed
  | preset units =>
      have same : (host.call (.preset units)).interrupted = host.interrupted :=
        congrArg (·.2.2) (presets_runtime host units)
      exact same.symm.trans unharmed
  | enable unit =>
      have same : (host.call (.enable unit)).interrupted = host.interrupted :=
        congrArg (·.2.2) (enable_runtime host unit)
      exact same.symm.trans unharmed
  | disable reload unit =>
      have same : (host.call (.disable reload unit)).interrupted = host.interrupted :=
        congrArg (·.2.2) (disable_runtime host reload unit)
      exact same.symm.trans unharmed
  | start unit =>
      cases unit with
      | socket => exact (startSocket_interrupted host).symm.trans unharmed
      | service => exact (startService_interrupted host).symm.trans unharmed
  | stop unit =>
      cases unit with
      | socket =>
          rw [Host.call, Host.stopSocket] at unharmed
          split at unharmed
          · exact stopService_interrupted unharmed
          · exact unharmed
      | service => exact stopService_interrupted unharmed
  | tryRestartService =>
      rw [Host.call] at unharmed
      split at unharmed
      · rw [startService_interrupted] at unharmed
        exact stopService_interrupted unharmed
      · exact unharmed

theorem perform_interrupted {command : Command}
    (unharmed : (host.perform command).interrupted = false) : host.interrupted = false := by
  cases command with
  | unpack package => exact unharmed
  | erase => exact unharmed
  | systemctl call => exact call_interrupted unharmed
  | unlessActive unit call =>
      rw [Host.perform] at unharmed
      split at unharmed
      · exact unharmed
      · exact call_interrupted unharmed

/-- An import that was cut off is remembered. -/
theorem program_interrupted {program : List Command}
    (unharmed : (program.foldl manager.perform host).interrupted = false) :
    host.interrupted = false := by
  induction program generalizing host with
  | nil => exact unharmed
  | cons command program ih => exact perform_interrupted (ih unharmed)

theorem disturb_interrupted {event : Event} {next : Host}
    (disturbed : host.disturb event = some next) : next.interrupted = host.interrupted := by
  cases event with
  | connect | idleExit =>
      simp only [Host.disturb] at disturbed
      split at disturbed
      · cases disturbed
        rfl
      · cases disturbed
  | importBegins | importEnds =>
      simp only [Host.disturb, Option.map_eq_some_iff] at disturbed
      rcases disturbed with ⟨process, _, rfl⟩
      rfl

end Interrupted

/-! ## Only the removal of 0.1.2 cuts off an import -/

theorem AtRest.interrupted {cut : Bool} {host : Host} (rest : AtRest cut host) :
    host.interrupted = cut := by
  rcases rest with rfl | ⟨_, process, served, rfl⟩ | ⟨process, served, rfl⟩ <;> rfl

/-- What comes to rest with the same record has not changed it on the way. -/
theorem promises_interrupted {command : Command} {program : List Command} {host : Host}
    (promises : manager.Promises (command :: program) (AtRest host.interrupted) host) :
    (host.perform command).interrupted = host.interrupted := by
  have final := promises.performed _ (Executes.undisturbed program _)
  have unharmed := final.interrupted
  cases before : host.interrupted with
  | false =>
      rw [before] at unharmed
      exact program_interrupted unharmed
  | true =>
      cases after : (host.perform command).interrupted with
      | true => rfl
      | false => exact absurd (perform_interrupted after) (ne_false_of_eq_true before)

/-- A host in the middle of whatever is done to it: it comes to rest and cuts
off nothing more, or 0.1.2 is removed and its service is not stopped yet. -/
inductive Underway (state : Progress) : Prop
  | keeps (promises :
      manager.Promises state.pending (AtRest state.host.interrupted) state.host)
  | removing (pending : state.pending = removal .legacy)
      (installed : LegacyInstalled state.host.interrupted state.host)
  | stopping
      (pending : state.pending = .systemctl (.stop .service) :: .erase :: Legacy.postun 0)
      (disabled : Stage (some .legacy) (some .legacy) false false false
        state.host.interrupted state.host)

/-- The step that cuts off an import: for the removal of 0.1.2 its service is
stopped, with the time limit of its own unit. -/
structure CutsOff (state : Progress) (label : Label) : Prop where
  performs : label = .perform
  removing : state.pending = .systemctl (.stop .service) :: .erase :: Legacy.postun 0
  loaded : state.host.loaded = some .legacy
  importing : Exists fun process => state.host.process = some process ∧ process.importing = true

/-- When the service of 0.1.2 is stopped, the rest of its removal is settled. -/
theorem legacy_stopped {state : Progress} {cut : Bool}
    (disabled : Stage (some .legacy) (some .legacy) false false false cut state.host) :
    Exists fun after => Bare (some .legacy) (some .legacy) false false after
        (state.host.perform (.systemctl (.stop .service))) ∧
      (after = cut ∨ Exists fun process =>
        state.host.process = some process ∧ process.importing = true) := by
  rcases disabled with ⟨process, _, same⟩
  rw [same]
  cases process with
  | none => exact ⟨cut, rfl, Or.inl rfl⟩
  | some running =>
      rcases running with ⟨activated, importing⟩
      refine ⟨cut || (importing && true), rfl, ?_⟩
      cases importing with
      | true => exact Or.inr ⟨_, rfl, rfl⟩
      | false =>
          rw [Bool.false_and, Bool.or_false]
          exact Or.inl rfl

theorem legacy_erased (cut : Bool) :
    manager.Triple (Bare (some .legacy) (some .legacy) false false cut)
      (.erase :: Legacy.postun 0) (AtRest cut) := by
  have erased : forall host, Bare (some .legacy) (some .legacy) false false cut host ->
      Bare none (some .legacy) false false cut (manager.perform host .erase) := by
    rintro host rfl
    rfl
  have forgotten : forall host, Bare none (some .legacy) false false cut host ->
      AtRest cut (manager.perform host (.systemctl .daemonReload)) := by
    rintro host rfl
    exact Or.inl rfl
  refine Triple.cons Bare.stable erased ?_
  refine Triple.cons Bare.stable forgotten ?_
  exact Triple.nil AtRest.stable

theorem Underway.disturb {state : Progress} {event : Event} {host : Host}
    (underway : Underway state) (disturbed : state.host.disturb event = some host) :
    Underway { state with host := host } := by
  have same := disturb_interrupted disturbed
  cases underway with
  | keeps promises =>
      rw [← same] at promises
      exact .keeps (promises.disturbed disturbed)
  | removing pending installed =>
      rcases installed with ⟨serviceEnabled, stage⟩
      rw [← same] at stage
      exact .removing pending ⟨serviceEnabled, Stage.stable _ event host stage disturbed⟩
  | stopping pending disabled =>
      rw [← same] at disabled
      exact .stopping pending (Stage.stable _ event host disabled disturbed)

/-- Every step keeps the host underway, and only the stop of 0.1.2 cuts off an
import. -/
theorem Underway.step {state next : Progress} {label : Label} (underway : Underway state)
    (step : state.step label = some next) :
    Underway next ∧ (next.host.interrupted = state.host.interrupted ∨ CutsOff state label) := by
  rcases state with ⟨host, pending⟩
  cases label with
  | disturb event =>
      rw [Progress.step, Option.map_eq_some_iff] at step
      rcases step with ⟨after, disturbed, rfl⟩
      exact ⟨underway.disturb disturbed, Or.inl (disturb_interrupted disturbed)⟩
  | perform =>
      cases pending with
      | nil => cases step
      | cons command pending =>
          cases step
          cases underway with
          | keeps promises =>
              have same := promises_interrupted promises
              refine ⟨.keeps ?_, Or.inl same⟩
              rw [same]
              exact promises.performed
          | removing whole installed =>
              cases whole
              rcases installed with ⟨serviceEnabled, process, served, same⟩
              refine ⟨.stopping rfl ⟨process, served, ?_⟩, Or.inl rfl⟩
              rw [same]
              rfl
          | stopping rest disabled =>
              cases rest
              rcases legacy_stopped disabled with ⟨cut, bare, reason⟩
              have record : (host.perform (.systemctl (.stop .service))).interrupted = cut := by
                rw [bare]
              refine ⟨.keeps ?_, ?_⟩
              · rw [record]
                exact (legacy_erased cut).promises bare
              · rcases reason with same | importing
                · exact Or.inl (record.trans same)
                · rcases disabled with ⟨process, served, same⟩
                  exact Or.inr ⟨rfl, rfl, by rw [same], importing⟩
  | begins transaction =>
      rw [Progress.step] at step
      split at step
      · rename_i idle
        cases idle
        rw [Option.map_eq_some_iff] at step
        rcases step with ⟨program, begun, rfl⟩
        refine ⟨?_, Or.inl rfl⟩
        cases underway with
        | keeps promises =>
            rcases promises.finished.transaction begun with promises | ⟨rfl, installed⟩
            · exact .keeps promises
            · exact .removing rfl installed
        | removing whole installed => cases whole
        | stopping rest disabled => cases rest
      · cases step
  | reboot =>
      rw [Progress.step] at step
      split at step
      · rename_i idle
        cases idle
        cases step
        cases underway with
        | keeps promises =>
            have rest := promises.finished.reboot
            have same := rest.interrupted
            refine ⟨.keeps ?_, Or.inl same⟩
            exact (Triple.nil AtRest.stable).promises (same.symm ▸ rest)
        | removing whole installed => cases whole
        | stopping rest disabled => cases rest
      · cases step

theorem underway {start : Host} (clean : Absent false start ∨ LegacyInstalled false start)
    {state : Progress} (reachable : (history start).Reachable state) : Underway state := by
  refine (history start).invariant Underway ?_ ?_ reachable
  · have rest : AtRest false start := clean.imp_right Or.inl
    have same := rest.interrupted
    exact .keeps ((Triple.nil AtRest.stable).promises (same.symm ▸ rest))
  · intro state label next held step
    exact (held.step step).1

/-- Between two transactions the host is at rest. -/
theorem Underway.atRest {state : Progress} (underway : Underway state)
    (between : state.pending = []) : AtRest state.host.interrupted state.host := by
  cases underway with
  | keeps promises =>
      rw [between] at promises
      exact promises.finished
  | removing whole installed => cases between.symm.trans whole
  | stopping rest disabled => cases between.symm.trans rest

theorem AtRest.settled {cut : Bool} {host : Host} (rest : AtRest cut host)
    (installed : host.files = some .current) : Settled cut host := by
  rcases rest with rfl | ⟨_, process, served, rfl⟩ | settled
  · cases installed
  · cases installed
  · exact settled

theorem AtRest.absent {cut : Bool} {host : Host} (rest : AtRest cut host)
    (removed : host.files = none) : Absent cut host := by
  rcases rest with absent | ⟨_, process, served, rfl⟩ | ⟨process, served, rfl⟩
  · exact absent
  · cases removed
  · cases removed

/-- The removal of 0.1.2 during an import does cut it off. -/
example : ((history ⟨some .legacy, some .legacy, false, true, false, some ⟨false, true⟩, false⟩).run
    ⟨⟨some .legacy, some .legacy, false, true, false, some ⟨false, true⟩, false⟩, []⟩
    [.begins .remove, .perform, .perform]).any (fun state => state.host.interrupted) = true := by
  decide

/-! ## An upgrade does not close the socket -/

def Command.closes : Command -> Bool
  | .systemctl call | .unlessActive _ call => call = .stop .socket
  | .unpack _ | .erase => false

section Listening

variable {host : Host}

theorem startSocket_listening (listens : host.listening = true) :
    host.startSocket.listening = true := by
  rw [Host.startSocket]
  split
  · rfl
  · exact listens

theorem startService_listening (listens : host.listening = true) :
    host.startService.listening = true := by
  rw [Host.startService]
  split
  · split
    · dsimp only
      split <;> exact startSocket_listening listens
    · exact listens
  · exact listens

theorem stopService_listening (host : Host) : host.stopService.listening = host.listening := by
  rw [Host.stopService]
  split <;> rfl

theorem call_listening {call : Systemctl} (listens : host.listening = true)
    (keeps : call ≠ .stop .socket) : (host.call call).listening = true := by
  cases call with
  | daemonReload => exact listens
  | preset units => exact (congrArg Prod.fst (presets_runtime host units)).trans listens
  | enable unit => exact (congrArg Prod.fst (enable_runtime host unit)).trans listens
  | disable reload unit =>
      exact (congrArg Prod.fst (disable_runtime host reload unit)).trans listens
  | start unit =>
      cases unit with
      | socket => exact startSocket_listening listens
      | service => exact startService_listening listens
  | stop unit =>
      cases unit with
      | socket => exact absurd rfl keeps
      | service => exact (stopService_listening host).trans listens
  | tryRestartService =>
      rw [Host.call]
      split
      · exact startService_listening ((stopService_listening host).trans listens)
      · exact listens

theorem perform_listening {command : Command} (listens : host.listening = true)
    (keeps : command.closes = false) : (host.perform command).listening = true := by
  cases command with
  | unpack package => exact listens
  | erase => exact listens
  | systemctl call => exact call_listening listens (of_decide_eq_false keeps)
  | unlessActive unit call =>
      rw [Host.perform]
      split
      · exact listens
      · exact call_listening listens (of_decide_eq_false keeps)

theorem disturb_listening {event : Event} {next : Host} (listens : host.listening = true)
    (disturbed : host.disturb event = some next) : next.listening = true := by
  cases event with
  | connect | idleExit =>
      simp only [Host.disturb] at disturbed
      split at disturbed
      · cases disturbed
        exact listens
      · cases disturbed
  | importBegins | importEnds =>
      simp only [Host.disturb, Option.map_eq_some_iff] at disturbed
      rcases disturbed with ⟨process, _, rfl⟩
      exact listens

end Listening

/-- The socket listens and the rest of the transaction leaves it alone. -/
structure Progress.Open (state : Progress) : Prop where
  listens : state.host.listening = true
  keeps : state.pending.any Command.closes = false

theorem upgrade_keeps (old : Package) : (upgrade old).any Command.closes = false := by
  cases old <;> rfl

theorem Progress.Open.step {state next : Progress} {label : Label} (isOpen : state.Open)
    (kept : label ≠ .begins .remove ∧ label ≠ .reboot) (step : state.step label = some next) :
    next.Open := by
  cases label with
  | disturb event =>
      rw [Progress.step, Option.map_eq_some_iff] at step
      rcases step with ⟨host, disturbed, rfl⟩
      exact ⟨disturb_listening isOpen.listens disturbed, isOpen.keeps⟩
  | perform =>
      rcases state with ⟨host, pending⟩
      cases pending with
      | nil => cases step
      | cons command pending =>
          cases step
          have keeps := isOpen.keeps
          rw [List.any_cons, Bool.or_eq_false_iff] at keeps
          exact ⟨perform_listening isOpen.listens keeps.1, keeps.2⟩
  | begins transaction =>
      rw [Progress.step] at step
      split at step
      · rw [Option.map_eq_some_iff] at step
        rcases step with ⟨program, begun, rfl⟩
        refine ⟨isOpen.listens, ?_⟩
        cases transaction with
        | install =>
            rw [Transaction.program] at begun
            split at begun
            · cases begun
              rfl
            · cases begun
        | upgrade =>
            rw [Transaction.program, Option.map_eq_some_iff] at begun
            rcases begun with ⟨old, _, rfl⟩
            exact upgrade_keeps old
        | remove => exact absurd rfl kept.1
      · cases step
  | reboot => exact absurd rfl kept.2

theorem Progress.Open.run {start : Host} {state final : Progress} {run : List Label}
    (isOpen : state.Open) (kept : .begins .remove ∉ run ∧ .reboot ∉ run)
    (executed : (history start).run state run = some final) : final.Open := by
  induction run generalizing state with
  | nil =>
      cases executed
      exact isOpen
  | cons label run ih =>
      rcases ((history start).run_cons_eq_some_iff).mp executed with ⟨next, step, rest⟩
      have here : label ≠ .begins .remove ∧ label ≠ .reboot :=
        ⟨fun same => kept.1 (same ▸ List.mem_cons_self),
          fun same => kept.2 (same ▸ List.mem_cons_self)⟩
      have later : .begins .remove ∉ run ∧ .reboot ∉ run :=
        ⟨fun listed => kept.1 (List.mem_cons_of_mem _ listed),
          fun listed => kept.2 (List.mem_cons_of_mem _ listed)⟩
      exact ih (isOpen.step here step) later rest

/-- Once the package is installed, the socket listens at every moment, also in
the middle of upgrades, until a removal or a reboot begins. -/
theorem upgrades_keep_listening (start : Host)
    (clean : Absent false start ∨ LegacyInstalled false start) (before after : List Label)
    (installed state : Progress)
    (reached : (history start).run (history start).initial before = some installed)
    (between : installed.pending = []) (current : installed.host.files = some .current)
    (executed : (history start).run installed after = some state)
    (kept : .begins .remove ∉ after ∧ .reboot ∉ after) : state.host.listening = true := by
  have rest := (underway clean ⟨before, reached⟩).atRest between
  have begins : installed.Open := by
    rcases rest.settled current with ⟨process, served, same⟩
    refine ⟨?_, ?_⟩
    · rw [same]
    · rw [between]
      rfl
  exact (begins.run kept executed).listens

/-- The process that a client had started is gone in the middle of an upgrade. -/
theorem restart_keeps_listening :
    (Host.mk (some .current) (some .current) true false true none false).listening = true :=
  upgrades_keep_listening ⟨none, none, false, false, false, none, false⟩ (Or.inl rfl)
    [.begins .install, .perform, .perform, .perform, .perform]
    [.disturb .connect, .begins .upgrade, .perform, .perform, .disturb .idleExit, .perform]
    ⟨⟨some .current, some .current, true, false, true, none, false⟩, []⟩
    ⟨⟨some .current, some .current, true, false, true, none, false⟩,
      (upgrade .current).drop 3⟩
    (by decide) rfl rfl (by decide) (by decide)

end Packaging
end XoaProxy
