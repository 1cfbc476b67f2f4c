/-
Module: AffinityPool.Affinity.Rule
Purpose: Which methods touch the affinity index, and how.
Main exports:
  Command, Rule, RuleTable, RuleTable.build, RuleTable.ruleFor
-/
import AffinityPool.Failure

namespace AffinityPool

/-- What a call does to the affinity index. -/
inductive Command where
  /-- Go to the channel of the request's key; change nothing. -/
  | bound
  /-- After success, bind the response's key to the serving channel. -/
  | bind
  /-- After success, release one binding of the request's key. -/
  | unbind
deriving Repr, DecidableEq, Inhabited

namespace Command

/-- The word of a command in documents and texts. -/
def word : Command → String
  | .bound => "BOUND"
  | .bind => "BIND"
  | .unbind => "UNBIND"

/-- The command of a word.  Words are compared exactly. -/
def ofWord? (word : String) : Option Command :=
  [bound, bind, unbind].find? fun command => command.word = word

theorem ofWord?_word (command : Command) : ofWord? command.word = some command := by
  cases command <;> rfl

/-- Whether the key comes from the request and not from the response. -/
def readsRequest : Command → Bool
  | .bound | .unbind => true
  | .bind => false

end Command

/-- How one method interacts with the affinity index. -/
structure Rule where
  method : String
  command : Command
  keyPath : String
deriving Repr, DecidableEq

/-- A rule as texts show it. -/
def Rule.shown (rule : Rule) : String :=
  let method := Text.quoted rule.method
  let word := rule.command.word
  let quotedWord := Text.quoted word
  let path := Text.quoted rule.keyPath
  s!"AffinityRule(method={method}, command=<AffinityCommand.{word}: {quotedWord}>, key_path={path})"

/-- The rules of a channel, at most one for a method, in the order given.
Methods without a rule are routed by load and never touch the index. -/
structure RuleTable where
  rules : List Rule
deriving Repr, DecidableEq, Inhabited

namespace RuleTable

/-- The table without rules. -/
def empty : RuleTable := ⟨[]⟩

/-- The rule of a method. -/
def ruleFor (table : RuleTable) (method : String) : Option Rule :=
  table.rules.find? (·.method = method)

/-- Add a rule behind the others.  A method that has a rule is refused, and so
is a key path that cannot be read; the first refusal is checked first. -/
def add (table : RuleTable) (rule : Rule) : Except Failure RuleTable :=
  if (table.ruleFor rule.method).isSome then .error (.duplicateRule rule.method)
  else
    match KeyPath.parse rule.keyPath with
    | .error fault => .error (.faultyRule rule.method fault)
    | .ok _ => .ok ⟨table.rules ++ [rule]⟩

/-- Build a table from rules in order. -/
def build (rules : List Rule) : Except Failure RuleTable :=
  rules.foldlM add empty

/-- The methods of a table in order. -/
def methods (table : RuleTable) : List String := table.rules.map (·.method)

/-- The rule of a method that must have one. -/
def get (table : RuleTable) (method : String) : Except Failure Rule :=
  match table.ruleFor method with
  | some rule => .ok rule
  | none => .error (.noRule method)

/-- A table as texts show it. -/
def shown (table : RuleTable) : String :=
  let rules := String.intercalate ", " (table.rules.map Rule.shown)
  s!"AffinityRuleTable([{rules}])"

end RuleTable

end AffinityPool
