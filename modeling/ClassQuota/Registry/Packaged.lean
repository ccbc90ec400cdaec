import ClassQuota.Registry

/-!
# The packaged registry

The registry that is used where no other is given. It has one entry for each message of the
linter.

## Main definitions

* `Registry.packaged` — the entries of the packaged registry
* `Registry.packagedValue` — the packaged registry as a value
-/

namespace ClassQuota

namespace Registry

/-- An entry with all of its fields. -/
def fullEntry (symbol displayName description template category : String) : Value :=
  .table [
    (.text "rule_name", .text "max-public-classes"),
    (.text "symbol", .text symbol),
    (.text "display_name", .text displayName),
    (.text "short_description", .text description),
    (.text "message_template", .text template),
    (.text "category", .text category)]

/-- The entries of the packaged registry. -/
def packaged : Entries := [
  (.text (keyBeginning ++ excessCode),
    fullEntry "max-public-classes" "Max Public Classes"
      ("Used when a module declares more public classes than the configured maximum. " ++
        "Public classes are those whose name starts with an upper-case character.")
      "you have exceeded the maximum number (%s) of public class declarations" "style"),
  (.text (keyBeginning ++ configErrorCode),
    fullEntry "public-types-config-error" "Rule Configuration Error"
      ("Used when a public-types rule could not be configured from its arguments. " ++
        "The rule does not run for the remaining files of the run.")
      "%s" "internal")]

/-- The packaged registry as a value. -/
def packagedValue : Value := .table packaged

end Registry

end ClassQuota
