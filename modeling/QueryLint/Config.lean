import QueryLint.Problem
import QueryLint.Setting
import QueryLint.Severity

/-! # Configurations

Settings with defaults and a switch per rule. A configuration remembers which settings were set
explicitly: laying one configuration over another carries those over and leaves defaults alone.
-/

namespace QueryLint

/-- Whether a rule runs, and the severity that its findings are given instead of their own. -/
structure RuleSwitch where
  enabled : Bool := true
  severity : Option Severity := none
  deriving DecidableEq, Repr, Inhabited

structure Config where
  settings : Table Data := defaultSettings
  explicit : List String := []
  rules : Table RuleSwitch := {}
  deriving Inhabited

inductive SettingType
  | int
  | bool
  | text
  | float
  | set
  | list
  | mapping
  deriving DecidableEq, Repr

namespace Config

def standard : Config := {}

/-! ## Settings -/

/-- The form in which a value is kept: collections become sets of texts, limits may not be
negative. A set that is already frozen is kept as it is. -/
def normalize (key : String) (value : Data) : Except Problem Data :=
  match value with
  | .list items | .tuple items | .set items =>
    if items.all Data.isText then .ok (.frozenSet (Data.dedup items))
    else .error (.validation key "collection settings must contain only strings" value)
  | .int n =>
    if n < 0 then .error (.validation key "numeric limits must be non-negative" value)
    else .ok value
  | _ => .ok value

def markExplicit (key : String) (keys : List String) : List String :=
  if keys.contains key then keys else keys ++ [key]

def set (c : Config) (key : String) (value : Data) : Except Problem Config := do
  let v ← normalize key value
  return { c with settings := c.settings.insert key v, explicit := markExplicit key c.explicit }

/-- Sets one entry after the other and stops at the first that is refused; the entries before it
stay set. -/
def update (c : Config) : List (String × Data) → Config × Option Problem
  | [] => (c, none)
  | (key, value) :: rest =>
    match c.set key value with
    | .ok c' => c'.update rest
    | .error p => (c, some p)

/-- The defaults with some settings on top. -/
def ofSettings (entries : List (String × Data)) : Except Problem Config :=
  match standard.update entries with
  | (c, none) => .ok c
  | (_, some p) => .error p

/-- A value as the asked type, if it is of that type. A flag is no number, and any collection can be
asked for as a set. -/
def ofType? (type : SettingType) (value : Data) : Option Data :=
  match type, value with
  | .int, .int n => some (.int n)
  | .bool, .bool b => some (.bool b)
  | .text, .text s => some (.text s)
  | .text, .torn t => some (.torn t)
  | .float, .float x => some (.float x)
  | .set, v => v.members?.map fun items => .frozenSet (Data.dedup items)
  | .list, .list items => some (.list items)
  | .mapping, .mapping es => some (.mapping es)
  | _, _ => none

/-- A setting as the asked type, or the given value instead. -/
def get (c : Config) (key : String) (type : SettingType) (otherwise : Data) : Data :=
  ((c.settings.get? key).bind (ofType? type)).getD otherwise

def limit (c : Config) (l : Limit) : Int :=
  match (c.settings.get? l.key).bind (ofType? .int) with
  | some (.int n) => n
  | _ => l.standard

def flag (c : Config) (f : Flag) : Bool :=
  match (c.settings.get? f.key).bind (ofType? .bool) with
  | some (.bool b) => b
  | _ => true

/-- The members of a vocabulary. They are texts unless a frozen set of other values was set. -/
def vocabulary (c : Config) (v : Vocabulary) : List Data :=
  match (c.settings.get? v.key).bind (ofType? .set) with
  | some (.frozenSet items) => items
  | _ => v.standard.map Data.text

/-! ## Rules -/

def ruleSwitch (c : Config) (ruleId : String) : RuleSwitch :=
  (c.rules.get? ruleId).getD {}

def setRule (c : Config) (ruleId : String) (switch : RuleSwitch) : Config :=
  { c with rules := c.rules.insert ruleId switch }

def enableRule (c : Config) (ruleId : String) : Config :=
  c.setRule ruleId { c.ruleSwitch ruleId with enabled := true }

def disableRule (c : Config) (ruleId : String) : Config :=
  c.setRule ruleId { c.ruleSwitch ruleId with enabled := false }

def disableRules (c : Config) (ruleIds : List String) : Config :=
  ruleIds.foldl disableRule c

def setRules (c : Config) (switches : List (String × RuleSwitch)) : Config :=
  switches.foldl (fun c s => c.setRule s.1 s.2) c

/-! ## Composition -/

/-- Lays the explicit settings and all rule switches of `other` over a configuration. -/
def merge (c other : Config) : Config :=
  { settings := other.explicit.foldl (fun t k => match other.settings.get? k with
      | some v => t.insert k v
      | none => t) c.settings
    explicit := other.explicit.foldl (fun ks k => markExplicit k ks) c.explicit
    rules := c.rules.insertAll other.rules }

/-- Equality of what two tables say about every key. -/
def tablesEqual {α : Type} (same : α → α → Bool) (s t : Table α) : Bool :=
  s.size == t.size && s.entries.all fun e => (t.get? e.1).any fun v => same e.2 v

/-- Equality of settings, by value, and of rule switches. -/
def equal (c other : Config) : Bool :=
  tablesEqual Data.equal c.settings other.settings
    && tablesEqual (fun (a b : RuleSwitch) => a == b) c.rules other.rules

def describe (c : Config) : String :=
  "LintConfig(settings=" ++ toString c.settings.size ++ ", rule_configs="
    ++ toString c.rules.size ++ ")"

end Config

end QueryLint
