import ClassQuota.Fault
import ClassQuota.Tree

/-!
# Findings

A finding is what a rule reports for one file. A finding of the category `internal` says that the
rule could not be configured; it sits on no node.

## Main definitions

* `Finding` — a finding
* `Finding.internal` — the finding for a configuration error
* `Finding.same` — equality of findings
-/

namespace ClassQuota

/-- The category of findings about the code. -/
def styleCategory : String := "style"

/-- The category of findings about the rule itself. -/
def internalCategory : String := "internal"

/-- What a rule reports for one file. -/
structure Finding where
  message : String
  /-- How sure the rule is; a number where the finding is the rule's own. -/
  confidence : Value := .float .one
  category : String := styleCategory
  /-- The node that the finding sits on. -/
  node : Option Node := none
  /-- The values that fill the template of the message. -/
  messageArgs : List String := []
  deriving BEq, Repr

namespace Finding

/-- The finding for a configuration error. -/
def internal (error : ConfigError) : Finding where
  message := error.message
  category := internalCategory
  messageArgs := [error.message]

/-- Whether a finding is about the rule itself. -/
def isInternal (f : Finding) : Bool :=
  f.category == internalCategory

/-- Whether two findings are equal, their confidences by value. -/
def same (f g : Finding) : Bool :=
  f.message == g.message && f.confidence.same g.confidence && f.category == g.category &&
    f.node == g.node && f.messageArgs == g.messageArgs

end Finding

end ClassQuota
