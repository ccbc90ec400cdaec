import ClassQuota.Rule
import Mathlib.Logic.Function.Basic

/-!
# A rule shared by threads

Several threads may apply one rule at the same time. An application then is not one step: every
reading or writing of the rule is, and so is every taking and giving up of the lock, and between
two of them other threads may move. What a thread does by itself belongs to its next step.

A thread looks at the flag without the lock first. If the rule is not configured it takes the
lock, looks again, and then configures the rule or finds it configured meanwhile. The flag is
written last. Everything after that is read without the lock.

## Main definitions

* `Place` — where a thread is in its application
* `Shared` — the rule and the owner of its lock
* `LimitRule.read`, `Shared.advance` — the next step of one thread
* `Threads` — threads with what they share
* `Threads.step`, `Threads.Run` — a step of any thread, and steps in any order
-/

namespace ClassQuota

/-- Where a thread is in its application: what it does next. -/
inductive Place where
  /-- Look whether the rule is configured, without the lock. -/
  | entering
  /-- Take the lock. -/
  | waiting
  /-- Look again, with the lock. -/
  | rechecking
  /-- Resolve the arguments, and write the maximum or the error. -/
  | configuring
  /-- Read the maximum and record it. -/
  | recording
  /-- Write that the rule is configured. -/
  | concluding
  /-- Give up the lock. -/
  | leaving
  /-- Give up the lock, because of a fault. -/
  | failing (fault : Fault)
  /-- Look whether there is an error. -/
  | testingError
  /-- Read the error for the finding. -/
  | readingError
  /-- Look whether the maximum turns the rule off. -/
  | testingMaximum
  /-- Compare the maximum with the number of declarations. -/
  | comparing
  /-- Read the maximum for the message. -/
  | citing
  /-- Read the maximum for the arguments of the message. -/
  | listing (cited : Int)
  /-- Nothing: the application has ended. -/
  | finished (outcome : Except Fault (List Finding))

/-- Whether a thread is between taking the lock and giving it up. -/
def Place.holdsLock : Place → Bool
  | .rechecking | .configuring | .recording | .concluding | .leaving | .failing _ => true
  | _ => false

/-- Whether a thread is about to execute the block that configures the rule. -/
def Place.startsBlock : Place → Bool
  | .configuring => true
  | _ => false

/-- What threads named by `ι` share: the rule, and the owner of its lock. -/
structure Shared (ι : Type) where
  rule : LimitRule := {}
  owner : Option ι := none

variable {ι : Type}

/-- The next place of a thread that reads the rule without the lock, once it is configured. -/
def LimitRule.read (rule : LimitRule) (tree : Node) : Place → Option Place
  | .testingError => some (if rule.error.isSome then .readingError else .testingMaximum)
  | .readingError =>
    -- An error that is gone by now would be shown as the missing value that it is.
    some (.finished (.ok [.internal (rule.error.getD (.general ruleName "None"))]))
  | .testingMaximum => some (if rule.maximum < 1 then .finished (.ok []) else .comparing)
  | .comparing =>
    let count := (Counter.mk 0).count tree
    some (if rule.maximum < count.current then .citing else .finished (.ok []))
  | .citing => some (.listing rule.maximum)
  | .listing cited =>
    let excess := { LimitRule.excess cited tree with messageArgs := [toString rule.maximum] }
    some (.finished (.ok [excess]))
  | _ => none

/-- The next step of the thread `i` in its application. There is none while another thread owns
the lock that it waits for, and none after its end. -/
def Shared.advance [DecidableEq ι] (records : Int → Bool) (call : Node × Value) (i : ι)
    (s : Shared ι) : Place → Option (Shared ι × Place)
  | .entering => some (s, if s.rule.configured then .testingError else .waiting)
  | .waiting => if s.owner = none then some ({ s with owner := some i }, .rechecking) else none
  | .rechecking => some (s, if s.rule.configured then .leaving else .configuring)
  | .configuring =>
    match resolve call.2 with
    | .ok maximum => some ({ s with rule := { s.rule with maximum := maximum } }, .recording)
    | .error (.config error) =>
      some ({ s with rule := { s.rule with error := some error } }, .concluding)
    | .error fault => some (s, .failing fault)
  | .recording =>
    some (s, if records s.rule.maximum then .concluding else .failing (.tooManyDigits none))
  | .concluding => some ({ s with rule := { s.rule with configured := true } }, .leaving)
  | .leaving => some ({ s with owner := none }, .testingError)
  | .failing fault => some ({ s with owner := none }, .finished (.error fault))
  | place => (s.rule.read call.1 place).map fun next => (s, next)

/-- Threads with what they share, each in its own application. -/
structure Threads (ι : Type) where
  shared : Shared ι := {}
  place : ι → Place := fun _ => .entering

namespace Threads

variable [DecidableEq ι]

/-- The threads after `i` has taken another place and written what is shared. -/
def move (t : Threads ι) (i : ι) (shared : Shared ι) (q : Place) : Threads ι :=
  ⟨shared, Function.update t.place i q⟩

@[simp] theorem move_shared (t : Threads ι) (i : ι) (shared : Shared ι) (q : Place) :
    (t.move i shared q).shared = shared := rfl

@[simp] theorem move_place_self (t : Threads ι) (i : ι) (shared : Shared ι) (q : Place) :
    (t.move i shared q).place i = q :=
  Function.update_self ..

theorem move_place_of_ne {i j : ι} (h : j ≠ i) (t : Threads ι) (shared : Shared ι) (q : Place) :
    (t.move i shared q).place j = t.place j :=
  Function.update_of_ne h ..

@[simp] theorem move_move (t : Threads ι) (i : ι) (x y : Shared ι) (p q : Place) :
    (t.move i x p).move i y q = t.move i y q := by
  simp [move]

/-- A step of the thread `i`, if it has one. -/
def step (records : Int → Bool) (calls : ι → Node × Value) (t : Threads ι) (i : ι) :
    Option (Threads ι) :=
  (t.shared.advance records (calls i) i (t.place i)).map fun next => t.move i next.1 next.2

/-- Steps of any threads in any order, with the threads that executed the block that configures
the rule, each as often as it did. -/
inductive Run (records : Int → Bool) (calls : ι → Node × Value) :
    Threads ι → List ι → Threads ι → Prop
  | start (t : Threads ι) : Run records calls t [] t
  | step {s t u : Threads ι} {ws : List ι} (i : ι) (h : Run records calls s ws t)
      (hstep : t.step records calls i = some u) :
      Run records calls s (if (t.place i).startsBlock then ws ++ [i] else ws) u

end Threads

end ClassQuota
