import CoprocReset.Bench.Rig
import CoprocReset.Daemon.Service

/-!
# A bench for daemons

On this bench a daemon runs from its arguments to its end. While it serves, clients call its
attribute and files change; then it gets its signal.
-/

namespace CoprocReset.Bench

open Daemon (Mishap NameReply ServiceStation Signal)
open Files (Entry FileTree Path)

/-- What happens while a daemon serves. -/
inductive ServiceStep where
  | read (attributeName : String)
  | write (attributeName data : String)
  | plant (path : Path) (entry : Entry)

/-- How a daemon is run. -/
structure Scenario where
  arguments : List String
  nameReply : NameReply
  steps : List ServiceStep
  signal : Signal

/-- What comes of a step, and the files after it. -/
structure ServiceReply where
  outcome : Outcome Answer
  files : FileTree

/-- What is seen of the run of a daemon. -/
structure ServiceReport where
  exitCode : Nat
  replies : List ServiceReply
  log : List String
  files : FileTree

namespace Scenario

/-- A step while a daemon serves. -/
def step (hw : Hardware Machine MachineLine) : ServiceStep → Action ServiceStation Answer
  | .read attributeName => do
    return .ofBus .text (← Bus.request hw attributeName .read)
  | .write attributeName data => do
    return .ofBus .number (← Bus.request hw attributeName (.write data))
  | .plant path entry => do
    (Action.update (Disturbance.plant path entry).apply).on Station.worldPart
    return .nothing

/-- The steps one after the other. -/
def serve (hw : Hardware Machine MachineLine) :
    List ServiceStep → ServiceStation → List ServiceReply × Log × ServiceStation
  | [], station => ([], [], station)
  | first :: rest, station =>
    let run := step hw first station
    let (replies, log, last) := serve hw rest run.world
    (⟨run.outcome, run.world.world.files⟩ :: replies, run.log ++ log, last)

/-- The report of a daemon that ended early. -/
def brokenOff (mishap : Mishap) (replies : List ServiceReply) (log : Log) (machine : Machine) :
    ServiceReport :=
  ⟨1, replies, log.map LogEntry.line ++ [mishap.lastWord], machine.files⟩

/-- A daemon that has its name, from the attachment on. -/
def attached (scenario : Scenario) (settings : Settings) (target : Target) (log : Log)
    (machine : Machine) : ServiceReport :=
  let entered := Daemon.enter settings target (.initial machine [])
  match Mishap.ofOutcome? entered.outcome with
  | some mishap => brokenOff mishap [] (log ++ entered.log) entered.world.world
  | none =>
    let hw := (Daemon.lifecycle settings target).hardware
    let (replies, served, station) := serve hw scenario.steps entered.world
    let left := Daemon.leave settings target scenario.signal station
    let log := log ++ entered.log ++ served ++ left.log
    match Mishap.ofOutcome? left.outcome with
    | some mishap => brokenOff mishap replies log left.world.world
    | none => ⟨0, replies, log.map LogEntry.line, left.world.world.files⟩

/-- A daemon that knows where the settings of the user are. -/
def configured (scenario : Scenario) (config : Path) (machine : Machine) : ServiceReport :=
  let prepared := Daemon.prepare config machine
  match prepared.outcome with
  | .failed failure => brokenOff (.failed failure) [] prepared.log prepared.world
  | .crashed message => brokenOff (.crashed message) [] prepared.log prepared.world
  | .done (settings, target) =>
    match scenario.nameReply with
    | .taken => brokenOff (.refused .nameTaken) [] prepared.log prepared.world
    | .granted => scenario.attached settings target prepared.log prepared.world

/-- The whole run. -/
def run (scenario : Scenario) (files : FileTree) : ServiceReport :=
  match Daemon.options? scenario.arguments with
  | none => ⟨2, [], [], files⟩
  | some .inform => ⟨0, [], [], files⟩
  | some (.serve config) => scenario.configured config ⟨files, .empty⟩

end Scenario

end CoprocReset.Bench
