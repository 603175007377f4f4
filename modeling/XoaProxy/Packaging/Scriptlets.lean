import XoaProxy.Foundation.Interference

namespace XoaProxy
namespace Packaging

/-!
# The scriptlets of the package

A transaction of the package manager unpacks files, runs scriptlets of the new
and of the old package, and erases files.  The scriptlets call `systemctl` and
ignore its failures.

The host is what these calls read and change, as the manual of the service
manager has it: the unit files on disk, those that were loaded when it last
reloaded, which units are enabled, whether the socket listens, and the process.
In between, clients connect, imports begin and end, and an idle process exits.
-/

inductive UnitName where
  | socket
  | service
deriving DecidableEq, Repr

/-- The always-on service of 0.1.2, or the socket-activated one. -/
inductive Package where
  | legacy
  | current
deriving DecidableEq, Repr

structure ServiceFile where
  /-- `Requires=` and `After=` -/
  requiresSocket : Bool
  /-- `TimeoutStopSec=` in seconds, or infinity -/
  timeoutStop : Option Nat
  /-- `[Install]` -/
  wanted : Bool
deriving DecidableEq, Repr

def Package.serviceFile : Package -> ServiceFile
  | .legacy => ⟨false, some 90, true⟩
  | .current => ⟨true, none, false⟩

/-- The socket file has an `[Install]` section. -/
def Package.hasSocket : Package -> Bool
  | .legacy => false
  | .current => true

/-- `83-xoa-proxy.preset` -/
def preset : UnitName -> Bool
  | .socket => true
  | .service => false

/-! ## The host -/

structure Process where
  activated : Bool
  importing : Bool
deriving DecidableEq, Repr

/-- `interrupted` says that an import was cut off by a stop with a time limit. -/
structure Host where
  files : Option Package
  loaded : Option Package
  socketEnabled : Bool
  serviceEnabled : Bool
  listening : Bool
  process : Option Process
  interrupted : Bool
deriving DecidableEq, Repr

inductive Systemctl where
  | daemonReload
  | preset (units : List UnitName)
  | enable (unit : UnitName)
  | disable (reload : Bool) (unit : UnitName)
  | start (unit : UnitName)
  | stop (unit : UnitName)
  | tryRestartService
deriving DecidableEq, Repr

namespace Host

def daemonReload (host : Host) : Host := { host with loaded := host.files }

def setEnabled (host : Host) (value : Bool) : UnitName -> Host
  | .socket => { host with socketEnabled := value }
  | .service => { host with serviceEnabled := value }

/-- A unit without an `[Install]` section cannot be enabled. -/
def installable (host : Host) : UnitName -> Bool
  | .socket => host.files.any Package.hasSocket
  | .service => host.files.any fun package => package.serviceFile.wanted

def enable (host : Host) (unit : UnitName) : Host :=
  if host.installable unit then (host.setEnabled true unit).daemonReload else host

def disable (host : Host) (reload : Bool) (unit : UnitName) : Host :=
  let disabled := host.setEnabled false unit
  if reload then disabled.daemonReload else disabled

def applyPreset (host : Host) (unit : UnitName) : Host :=
  if preset unit then host.enable unit else host.disable true unit

/-- The process ends.  It finishes its import first, unless the loaded service
file limits the time for that. -/
def stopService (host : Host) : Host :=
  match host.process with
  | none => host
  | some process =>
      let limited := host.loaded.any fun package => package.serviceFile.timeoutStop.isSome
      { host with
        process := none
        interrupted := host.interrupted || (process.importing && limited) }

/-- The service that requires the socket ends with it. -/
def stopSocket (host : Host) : Host :=
  if host.loaded.any fun package => package.serviceFile.requiresSocket then
    { host.stopService with listening := false }
  else
    { host with listening := false }

/-- A process keeps the socket from being started. -/
def startSocket (host : Host) : Host :=
  if host.loaded.any Package.hasSocket && host.process.isNone then
    { host with listening := true }
  else
    host

/-- The socket is started in front of the service that requires it. -/
def startService (host : Host) : Host :=
  match host.loaded, host.process with
  | some package, none =>
      if package.serviceFile.requiresSocket then
        let host := host.startSocket
        if host.listening then { host with process := some ⟨true, false⟩ } else host
      else
        { host with process := some ⟨false, false⟩ }
  | _, _ => host

def call (host : Host) : Systemctl -> Host
  | .daemonReload => host.daemonReload
  | .preset units => units.foldl Host.applyPreset host
  | .enable unit => host.enable unit
  | .disable reload unit => host.disable reload unit
  | .start .socket => host.startSocket
  | .start .service => host.startService
  | .stop .socket => host.stopSocket
  | .stop .service => host.stopService
  | .tryRestartService => if host.process.isSome then host.stopService.startService else host

def isActive (host : Host) : UnitName -> Bool
  | .socket => host.listening
  | .service => host.process.isSome

end Host

inductive Command where
  | unpack (package : Package)
  | erase
  | systemctl (call : Systemctl)
  /-- `if ! systemctl is-active` -/
  | unlessActive (unit : UnitName) (call : Systemctl)
deriving DecidableEq, Repr

def Host.perform (host : Host) : Command -> Host
  | .unpack package => { host with files := some package }
  | .erase => { host with files := none }
  | .systemctl call => host.call call
  | .unlessActive unit call => if host.isActive unit then host else host.call call

inductive Event where
  | connect
  | importBegins
  | importEnds
  | idleExit
deriving DecidableEq, Repr

def Host.disturb (host : Host) : Event -> Option Host
  | .connect =>
      if host.listening && host.process.isNone then
        some { host with process := some ⟨true, false⟩ }
      else
        none
  | .importBegins => host.process.map fun process =>
      { host with process := some { process with importing := true } }
  | .importEnds => host.process.map fun process =>
      { host with process := some { process with importing := false } }
  | .idleExit =>
      if host.process = some ⟨true, false⟩ then some { host with process := none } else none

def manager : Interference Host Command Event where
  perform := Host.perform
  disturb := Host.disturb

/-- The process is gone, and what is enabled is started. -/
def Host.reboot (host : Host) : Host :=
  let down := { host.daemonReload with listening := false, process := none }
  let listens := if down.socketEnabled then down.startSocket else down
  if listens.serviceEnabled then listens.startService else listens

/-! ## The scriptlets -/

/-- The scriptlets get the number of instances of the package that are
installed behind them. -/
def post (instances : Nat) : List Command :=
  [.systemctl .daemonReload] ++
    (if instances = 1 then
      [.systemctl (.preset [.socket, .service])]
    else
      [.systemctl (.disable true .service), .systemctl (.enable .socket)]) ++
    [.unlessActive .service (.start .socket)]

def preun (instances : Nat) : List Command :=
  if instances = 0 then
    [.systemctl (.disable false .service), .systemctl (.disable false .socket),
      .systemctl (.stop .socket), .systemctl (.stop .service)]
  else
    []

def postun (instances : Nat) : List Command :=
  [.systemctl .daemonReload] ++
    (if 1 ≤ instances then
      [.systemctl .tryRestartService, .systemctl (.start .socket)]
    else
      [])

namespace Legacy

def preun (instances : Nat) : List Command :=
  if instances = 0 then
    [.systemctl (.disable false .service), .systemctl (.stop .service)]
  else
    []

def postun (instances : Nat) : List Command :=
  [.systemctl .daemonReload] ++
    (if 1 ≤ instances then [.systemctl .tryRestartService] else [])

end Legacy

def Package.preun : Package -> Nat -> List Command
  | .legacy => Legacy.preun
  | .current => Packaging.preun

def Package.postun : Package -> Nat -> List Command
  | .legacy => Legacy.postun
  | .current => Packaging.postun

def install : List Command := .unpack .current :: post 1

/-- Both packages are installed until the old one is erased. -/
def upgrade (old : Package) : List Command :=
  .unpack .current :: (post 2 ++ old.preun 1 ++ old.postun 1)

def removal (package : Package) : List Command :=
  package.preun 0 ++ .erase :: package.postun 0

end Packaging
end XoaProxy
