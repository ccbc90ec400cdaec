import ClassQuota.Rule

/-!
# Outcomes of configuration

A list of arguments amounts to a maximum or to a configuration error. That outcome alone decides
what a rule reports for a tree from then on. Outcomes are described here case by case, without
the rule's state and without its steps.

Not every list has an outcome: an argument that is neither an integer nor can be shown in an
error amounts to nothing.

## Main definitions

* `Outcome` — a maximum or a configuration error
* `Amounts` — what a list of arguments amounts to
* `Outcome.findings` — what is reported for a tree under an outcome
* `LimitRule.settle`, `LimitRule.settled` — a rule, and a fresh rule, settled on an outcome
-/

namespace ClassQuota

/-- What the arguments of a rule amount to. -/
inductive Outcome where
  | limit (maximum : Int)
  | refused (error : ConfigError)

/-- What a list of arguments amounts to. -/
inductive Amounts : List Value → Outcome → Prop
  /-- No arguments mean the default. -/
  | default : Amounts [] (.limit defaultMaximum)
  /-- A single argument means the integer that it stands for. -/
  | integer {v : Value} {n : Int} (h : v.asInteger? = some n) : Amounts [v] (.limit n)
  /-- A single argument that is no integer is shown in the error. -/
  | noInteger {v : Value} {shown : String} (h : v.asInteger? = none)
      (hs : v.literal? = some shown) : Amounts [v] (.refused (.invalidValue ruleName v shown))
  /-- More arguments are refused by their number. -/
  | several {vs : List Value} (h : 2 ≤ vs.length) :
      Amounts vs (.refused (.argumentCount ruleName 1 vs.length))

namespace Outcome

/-- An outcome as the result of resolving arguments. -/
def result : Outcome → Except Fault Int
  | .limit maximum => .ok maximum
  | .refused error => .error (.config error)

/-- What is reported for a tree under an outcome: the error whatever the tree, or one finding if
the tree has more public declarations than a maximum that is not below one. -/
def findings : Outcome → Node → List Finding
  | .limit maximum, tree =>
    if 1 ≤ maximum ∧ maximum < tree.publicCount then [LimitRule.excess maximum tree] else []
  | .refused error, _ => [.internal error]

/-- The maximum that a rule has under an outcome. -/
def maximum : Outcome → Int
  | .limit maximum => maximum
  | .refused _ => defaultMaximum

/-- What a rule that settles on an outcome records. -/
def event : Outcome → Event
  | .limit maximum => .maximumResolved ruleName maximum
  | .refused error => .configurationFailed ruleName error

theorem result_injective : Function.Injective result := by
  intro o o' h
  cases o <;> cases o' <;> simp_all [result]

end Outcome

namespace LimitRule

/-- A rule after it has settled on an outcome. -/
def settle (rule : LimitRule) : Outcome → LimitRule
  | .limit maximum => { rule with maximum := maximum, configured := true }
  | .refused error => { rule with error := some error, configured := true }

/-- The rule that was fresh when it settled on an outcome. -/
def settled (o : Outcome) : LimitRule :=
  ({} : LimitRule).settle o

@[simp] theorem settle_configured (rule : LimitRule) (o : Outcome) :
    (rule.settle o).configured = true := by
  cases o <;> rfl

@[simp] theorem settled_configured (o : Outcome) : (settled o).configured = true :=
  settle_configured {} o

@[simp] theorem settled_maximum (o : Outcome) : (settled o).maximum = o.maximum := by
  cases o <;> rfl

@[simp] theorem settled_limit_error (n : Int) : (settled (.limit n)).error = none := rfl

@[simp] theorem settled_refused_error (e : ConfigError) :
    (settled (.refused e)).error = some e := rfl

end LimitRule

end ClassQuota
