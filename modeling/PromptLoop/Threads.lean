/-!
# Threads and cores

Generation runs on a pool of worker threads, and the sampling within it on a pool of one. With many
workers each thread is tied to a core of its own: the main thread to the last core, then every worker to
the core of its number. A thread that cannot be tied runs untied and is counted.
-/

namespace PromptLoop

namespace Threads

/-- Up to this many workers, the operating system places the threads. -/
def pinThreshold : Nat := 10

/-- The number of cores that the operating system's core sets have room for. -/
def coreSetSize : Nat := 1024

/-- The cores that are asked for, in order: the main thread's first and then the workers'. -/
structure PinPlan where
  /-- The core of the main thread. -/
  mainCore : Nat
  /-- The cores of the workers. -/
  workerCores : List Nat
  deriving DecidableEq, Repr

/-- The plan for a number of workers, if threads are to be tied at all. -/
def pinPlan? (workers : Nat) : Option PinPlan :=
  if workers ≤ pinThreshold then none else some ⟨workers - 1, List.range workers⟩

/-- How tying the threads went. -/
structure PinReport where
  /-- The core that the main thread was tied to, or was meant to be. -/
  mainCore : Option Nat
  /-- The number of workers that were tied. -/
  pinnedWorkers : Nat
  /-- The number of threads that could not be tied. -/
  failures : Nat
  deriving DecidableEq, Repr

/-- Carries out a plan, given which cores refuse. -/
def pin (refuses : Nat → Bool) : Option PinPlan → PinReport
  | none => ⟨none, 0, 0⟩
  | some plan =>
    ⟨some plan.mainCore, plan.workerCores.countP (fun core => !refuses core),
      (plan.mainCore :: plan.workerCores).countP refuses⟩

/-- The size of the pool for sampling. -/
def innerPoolSize : Nat := 1

/-- The reason why no thread can be tied to a core outside the operating system's core sets. -/
def coreRefusal? (core : Nat) : Option String :=
  if coreSetSize ≤ core then some s!"core {core} outside cpu set" else none

/-- The most workers that are used without being asked for. -/
def maxDefaultWorkers : Nat := 18

/-- The number of workers on a machine with the given number of cores, if none is configured: two cores
are left alone, but at least one worker is used. -/
def defaultWorkers (cores : Nat) : Nat := min (max (cores - 2) 1) maxDefaultWorkers

end Threads

end PromptLoop
