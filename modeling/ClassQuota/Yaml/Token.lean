/-!
# Tokens of YAML

A text is read as a list of tokens. The block structure that indentation expresses has tokens of
its own, so what reads the tokens need not look at columns.

## Main definitions

* `Yaml.Directive`, `Yaml.Token` — directives and tokens
-/

namespace ClassQuota

namespace Yaml

/-- A directive: the version of the language, a handle for tags, or anything else. -/
inductive Directive where
  | version (major minor : Nat)
  | tagHandle (handle beginning : String)
  | other
  deriving DecidableEq, Repr

/-- A token. -/
inductive Token where
  | directive (d : Directive)
  | documentStart
  | documentEnd
  | blockSequenceStart
  | blockMappingStart
  | blockEnd
  | flowSequenceStart
  | flowSequenceEnd
  | flowMappingStart
  | flowMappingEnd
  | blockEntry
  | flowEntry
  | key
  | value
  | alias (name : String)
  | anchor (name : String)
  /-- A tag: a handle, if there is one, and what follows it. -/
  | tag (handle : Option String) (suffix : String)
  /-- A scalar by its code points; a plain one is written without quotes and on no lines of its
  own. -/
  | scalar (text : List Nat) (plain : Bool)
  deriving DecidableEq, Repr

end Yaml

end ClassQuota
