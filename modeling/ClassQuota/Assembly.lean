import ClassQuota.Registry.Store
import ClassQuota.Rule
import ClassQuota.Settings.Search

/-!
# The assembly of a run

An assembly holds the parts of one run of the linter under keys: its settings, its registry
store, its rule, and whatever else is registered. A part is made once and may then be held under
several keys; what one key does to it shows under the others. Which maxima of a rule the log takes
down is left to the caller, as for a rule by itself.

## Main definitions

* `Part`, `Supply` — the parts, and how they are made
* `Assembly` — parts and the keys they are held under
* `Assembly.ofSettings`, `Assembly.load` — an assembly with its usual parts
* `Assembly.Call`, `Assembly.Answer` — what is done with an assembly, and what comes of it
* `Assembly.perform`, `Assembly.performAll` — one call, and calls in sequence
-/

namespace ClassQuota

/-- A part of a run. -/
inductive Part where
  | rule (state : LimitRule)
  | settings (settings : Settings)
  | store (store : Registry.Store)
  | value (value : Value)
  deriving BEq, Repr

/-- How a new part is made. -/
inductive Supply where
  | rule
  | settings (config : Value)
  | packagedStore
  | store (path : String) (file : Option (List UInt8))
  | value (value : Value)
  deriving Repr

/-- Make a part. -/
def Supply.make : Supply → Attempt Part
  | .rule => pure (.rule {})
  | .settings config => do pure (.settings (← Settings.load config))
  | .packagedStore => pure (.store .packaged)
  | .store path file => do pure (.store (← Registry.Store.load path file))
  | .value v => pure (.value v)

/-- Whether there is only one value like this one, so that two parts with it are one. -/
def Value.isSingle : Value → Bool
  | .null => true
  | .bool _ => true
  | .int n => -5 ≤ n && n ≤ 256
  | .text s =>
    match s.toList with
    | [] => true
    | [c] => c.toNat < 0x100
    | _ => false
  | .bytes bs => bs.length < 2
  | .tuple xs => xs.isEmpty
  | _ => false

/-- Whether two parts that were made apart are one all the same. -/
def Part.coincides : Part → Part → Bool
  | .value v, .value w => v.isSingle && v == w
  | _, _ => false

/-- Parts in the order in which they were made, and the keys they are held under, of which the
latest one counts. -/
structure Assembly where
  parts : List Part := []
  keys : List (String × Nat) := []
  deriving Repr

/-- The key of the settings. -/
def settingsKey : String := "ConfigurationLoader"

/-- The key of the registry store. -/
def storeKey : String := "GuidanceService"

/-- The key of the rule. -/
def ruleKey : String := ruleName

namespace Assembly

/-- Hold a part that was made under a key. -/
def hold (key : String) (id : Nat) (a : Assembly) : Assembly :=
  { a with keys := (key, id) :: a.keys }

/-- Add a new part under a key. -/
def add (key : String) (part : Part) (a : Assembly) : Assembly :=
  { a with parts := a.parts ++ [part] }.hold key a.parts.length

/-- The number of the part under a key. -/
def id? (a : Assembly) (key : String) : Except Fault Nat :=
  match a.keys.lookup key with
  | some id => .ok id
  | none => .error (.unregistered key)

/-- The part under a key. -/
def part (a : Assembly) (key : String) : Except Fault Part := do
  match a.parts[← a.id? key]? with
  | some part => .ok part
  | none => .error (.unregistered key)

/-- The usual parts around given settings. -/
def ofSettings (settings : Settings) : Assembly :=
  ((({} : Assembly).add settingsKey (.settings settings)).add storeKey (.store .packaged)).add
    ruleKey (.rule {})

/-- The usual parts, with the settings found from a directory. -/
def load (tree : FileTree) (directory : FilePath) : Attempt Assembly := do
  let config ← Settings.findFrom tree directory none
  let settings ← Settings.load config
  pure (ofSettings settings)

/-- What is done with an assembly. -/
inductive Call where
  /-- Get the part under a key. -/
  | get (key : String)
  /-- Whether two keys hold one part. -/
  | same (first second : String)
  /-- Make a part and hold it under a key. -/
  | register (key : String) (supply : Supply)
  /-- Hold the part under one key under another one too. -/
  | share (key held : String)
  /-- Get the registry of the part under the key of the store. -/
  | registry
  /-- Apply the part under the key of the rule, with the arguments that the settings give. -/
  | apply (tree : Node)
  deriving Repr

/-- What comes of a call. -/
inductive Answer where
  | part (part : Part)
  | same (same : Bool)
  | registry (entries : Entries)
  | findings (findings : List Finding)
  | done
  deriving BEq, Repr

/-- Whether two keys hold one part. -/
def holdsSame (a : Assembly) (first second : String) : Except Fault Bool := do
  let p ← a.part first
  let q ← a.part second
  .ok ((← a.id? first) == (← a.id? second) || p.coincides q)

/-- The registry of the part under the key of the store. -/
def registry (a : Assembly) : Except Fault Entries := do
  match ← a.part storeKey with
  | .store store => .ok store.entries
  | _ => .error .noOperation

/-- The arguments that the part under the key of the settings gives for the rule. -/
def ruleArguments (a : Assembly) : Except Fault (List Value) := do
  match ← a.part settingsKey with
  | .settings settings => settings.argumentsFor ruleName
  | _ => .error .noOperation

/-- The rule under its key, with the number of that part. -/
def rule (a : Assembly) : Except Fault (Nat × LimitRule) := do
  match ← a.part ruleKey with
  | .rule state => .ok (← a.id? ruleKey, state)
  | _ => .error .noOperation

/-- What an application of the rule starts from: its arguments, the number of its part, and its
state. -/
def application (a : Assembly) : Except Fault (List Value × Nat × LimitRule) := do
  let arguments ← a.ruleArguments
  let rule ← a.rule
  .ok (arguments, rule)

/-- Apply the rule to a tree. -/
def apply (a : Assembly) (tree : Node) (records : Int → Bool := LimitRule.isRecordable) :
    Assembly × Attempt (List Finding) :=
  match a.application with
  | .error fault => (a, .fail fault)
  | .ok (arguments, id, state) =>
    let applied := state.apply tree (.list arguments) records
    ({ a with parts := a.parts.set id (.rule applied.1) }, applied.2)

/-- One call. -/
def perform (a : Assembly) (call : Call) (records : Int → Bool := LimitRule.isRecordable) :
    Assembly × Attempt Answer :=
  match call with
  | .get key => (a, .ofExcept ((a.part key).map .part))
  | .same first second => (a, .ofExcept ((a.holdsSame first second).map .same))
  | .register key supply =>
    match supply.make with
    | ⟨.ok part, log⟩ => (a.add key part, ⟨.ok .done, log⟩)
    | ⟨.error fault, log⟩ => (a, ⟨.error fault, log⟩)
  | .share key held =>
    match a.id? held with
    | .ok id => (a.hold key id, pure .done)
    | .error fault => (a, .fail fault)
  | .registry => (a, .ofExcept (a.registry.map .registry))
  | .apply tree =>
    let applied := a.apply tree records
    (applied.1, applied.2 >>= fun findings => pure (.findings findings))

/-- Calls one after another. A fault ends its own call only. -/
def performAll (a : Assembly) (calls : List Call)
    (records : Int → Bool := LimitRule.isRecordable) : Assembly × List (Attempt Answer) :=
  match calls with
  | [] => (a, [])
  | call :: rest =>
    let first := a.perform call records
    let others := first.1.performAll rest records
    (others.1, first.2 :: others.2)

end Assembly

end ClassQuota
