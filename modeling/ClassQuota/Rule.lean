import ClassQuota.Arguments
import ClassQuota.Declaration
import ClassQuota.Finding
import ClassQuota.Log

/-!
# The rule that limits public declarations

The rule reports a file that declares more public classes than a maximum. One rule serves all
files of a run. Its arguments are resolved by the first application that does not end in a fault;
from then on the maximum, or the configuration error, is fixed.

What the rule settles on is recorded. A log that writes its records out cannot take down a maximum
with more digits than can be written: the rule then has that maximum, but it has not settled on it.
Which maxima a log takes down is left to the caller, since another log may keep them all.

## Main definitions

* `resolve` — what arguments mean: a maximum, or an error
* `LimitRule` — the state of a rule
* `LimitRule.isRecordable` — the maxima that a log takes down that writes them out
* `LimitRule.configure` — settling on the outcome of the first arguments
* `LimitRule.check` — what a configured rule reports for a tree
* `LimitRule.apply` — one application
* `LimitRule.applyAll` — applications in sequence
-/

namespace ClassQuota

/-- The name of the rule. -/
def ruleName : String := "max-public-classes"

/-- The maximum without arguments. -/
def defaultMaximum : Int := 5

/-- The maximum that arguments mean. None mean the default, and one argument means its
integer. -/
def resolve (arguments : Value) : Except Fault Int := do
  let count ← countArguments arguments
  if count = 0 then .ok defaultMaximum
  else
    checkCount ruleName 1 arguments
    match arguments.first? with
    | some value => readInteger ruleName value
    | none => .error .missingKey

/-- The state of a rule. -/
structure LimitRule where
  maximum : Int := defaultMaximum
  error : Option ConfigError := none
  configured : Bool := false
  deriving BEq, Repr

namespace LimitRule

/-- Whether a maximum can be written into a record. -/
def isRecordable (maximum : Int) : Bool :=
  (Numeral.write maximum).isSome

/-- Settle on the outcome of the arguments, once. A fault other than a configuration error leaves
the rule as it was, except for a maximum that the log does not take down. -/
def configure (rule : LimitRule) (arguments : Value) (records : Int → Bool := isRecordable) :
    LimitRule × Attempt Unit :=
  if rule.configured then (rule, pure ())
  else
    match resolve arguments with
    | .ok maximum =>
      if records maximum then
        ({ rule with maximum := maximum, configured := true },
          .record (.maximumResolved ruleName maximum))
      else ({ rule with maximum := maximum }, .fail (.tooManyDigits none))
    | .error (.config error) =>
      ({ rule with error := some error, configured := true },
        .record (.configurationFailed ruleName error))
    | .error fault => (rule, .fail fault)

/-- The finding for a tree with too many public declarations. -/
def excess (maximum : Int) (tree : Node) : Finding where
  message := "you have exceeded the maximum number (" ++ toString maximum ++
    ") of public class declarations"
  node := some tree
  messageArgs := [toString maximum]

/-- What a configured rule reports for a tree. A maximum below one turns the rule off. -/
def check (rule : LimitRule) (tree : Node) : Attempt (List Finding) :=
  match rule.error with
  | some error => pure [.internal error]
  | none =>
    if rule.maximum < 1 then pure []
    else do
      let count := (Counter.mk 0).count tree
      .record (.declarationsCounted ruleName tree.label count.current)
      pure (if rule.maximum < count.current then [excess rule.maximum tree] else [])

/-- One application: settle on the arguments if that has not been done, then check the tree. -/
def apply (rule : LimitRule) (tree : Node) (arguments : Value)
    (records : Int → Bool := isRecordable) : LimitRule × Attempt (List Finding) :=
  let configured := rule.configure arguments records
  (configured.1, configured.2 >>= fun _ => configured.1.check tree)

/-- Applications one after another. A fault ends its own application only. -/
def applyAll (rule : LimitRule) (calls : List (Node × Value))
    (records : Int → Bool := isRecordable) : LimitRule × List (Attempt (List Finding)) :=
  match calls with
  | [] => (rule, [])
  | (tree, arguments) :: rest =>
    let first := rule.apply tree arguments records
    let others := first.1.applyAll rest records
    (others.1, first.2 :: others.2)

end LimitRule

end ClassQuota
