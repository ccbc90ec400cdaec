import ClassQuota.Yaml.Node.Value
import ClassQuota.Yaml.Source

/-!
# YAML documents

A file holds at most one document. A file without a document stands for nothing. Collections may
stand inside each other up to a limit only.

## Main definitions

* `Yaml.TokenRun.limited` — tokens up to the limit of depth
* `Yaml.read` — the value of a file
-/

namespace ClassQuota

namespace Yaml

/-- How deep collections may stand inside each other. -/
def maxDepth : Nat := 487

/-- The number of collections around the place after a token. -/
def depthAfter (depth : Nat) : Token → Nat
  | .blockSequenceStart | .blockMappingStart | .flowSequenceStart | .flowMappingStart => depth + 1
  | .blockEnd | .flowSequenceEnd | .flowMappingEnd => depth - 1
  | _ => depth

/-- The tokens up to the one that opens a collection too deep, and whether there is such a one. -/
def takeLimited : (depth : Nat) → List Token → List Token × Bool
  | _, [] => ([], false)
  | depth, t :: ts =>
    let after := depthAfter depth t
    if maxDepth < after then ([t], true)
    else
      let others := takeLimited after ts
      (t :: others.1, others.2)

/-- Tokens up to the limit of depth, and the fault that is met beyond. -/
def TokenRun.limited (run : TokenRun) : TokenRun :=
  match takeLimited 0 run.tokens with
  | (_, false) => run
  | (tokens, true) => ⟨tokens, some .tooDeep⟩

/-- The value of a file, and the objects that it refers to. -/
def read (bytes : List UInt8) : Except Fault (Objects × Ref) := do
  let (cs, cut) ← Source.text bytes
  match ← NodeGraph.ofTokens (TokenRun.ofText cs cut).limited with
  | none => .ok (#[], .value .null)
  | some graph => graph.build

end Yaml

end ClassQuota
