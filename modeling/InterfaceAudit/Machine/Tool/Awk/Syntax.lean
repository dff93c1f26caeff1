import InterfaceAudit.Machine.Tool.Awk.Number
import InterfaceAudit.Machine.Tool.Pattern

/-!
Contract: the language of rules for records, as syntax trees.

Owns: expressions, statements, rules and functions.

Does not own: how they are written and what they do.
-/

namespace InterfaceAudit.Tool.Awk

inductive Arithmetic where
  | add
  | subtract
  | multiply
  | divide
  | remainder
  | power
deriving DecidableEq, Repr, Inhabited

/-- The ways to compare two values. -/
inductive Comparison where
  | less
  | lessEqual
  | equal
  | notEqual
  | greater
  | greaterEqual
deriving DecidableEq, Repr, Inhabited

/-- The functions that the language provides. -/
inductive Provided where
  | length
  | substring
  | index
  | split
  | find
  | format
  | lower
  | upper
  | system
  | close
  | flush
  | sine
  | cosine
  | arcTangent
  | exponential
  | logarithm
  | squareRoot
  | whole
  | random
  | seed
  | clock
deriving DecidableEq, Repr, Inhabited

inductive RecordSource where
  | operands
  | file
  | command
deriving DecidableEq, Repr, Inhabited

mutual

inductive Expression where
  | number (value : Measure)
  | text (text : Octets)
  /-- A pattern; by itself it tells whether the record matches. -/
  | pattern (pattern : Pattern)
  | read (place : Place)
  | assign (operator : Option Arithmetic) (target : Place) (value : Expression)
  /-- Adds one, or takes it away; the value is the new one or the old one. -/
  | step (isNew isUp : Bool) (target : Place)
  | choice (condition yes no : Expression)
  | both (first second : Expression)
  | either (first second : Expression)
  | not (operand : Expression)
  | minus (operand : Expression)
  | plus (operand : Expression)
  | arithmetic (operator : Arithmetic) (first second : Expression)
  | comparison (operator : Comparison) (first second : Expression)
  | concatenation (first second : Expression)
  | isMatch (negated : Bool) (text pattern : Expression)
  | isMember (subscripts : List Expression) (array : Octets)
  | call (function : Octets) (arguments : List Expression)
  | provided (function : Provided) (arguments : List Expression)
  | substitute (everywhere : Bool) (pattern replacement : Expression) (target : Place)
  | nextRecord (source : RecordSource) (name : Option Expression) (target : Option Place)
  /-- Expressions in parentheses, with commas between them. -/
  | group (items : List Expression)

inductive Place where
  | variable (name : Octets)
  | element (array : Octets) (subscripts : List Expression)
  | field (number : Expression)
  | fieldCount

end

instance : Inhabited Expression := ⟨.text []⟩

inductive Redirect where
  | file
  | appended
  | command
deriving DecidableEq, Repr, Inhabited

inductive Statement where
  | evaluate (expression : Expression)
  | print (items : List Expression) (redirect : Option (Redirect × Expression))
  | format (items : List Expression) (redirect : Option (Redirect × Expression))
  | branch (condition : Expression) (yes no : Statement)
  /-- A loop; `isChecked` tells whether the condition is looked at before the
  first round. -/
  | loop (isChecked : Bool) (condition : Option Expression) (step body : Statement)
  | forEach (name array : Octets) (body : Statement)
  | block (statements : List Statement)
  | delete (array : Octets) (subscripts : Option (List Expression))
  | next
  | nextFile
  | exit (status : Option Expression)
  | result (value : Option Expression)
  | leaveLoop
  | nextRound

instance : Inhabited Statement := ⟨.block []⟩

/-- When a rule applies to a record. -/
inductive Condition where
  | always
  | when (expression : Expression)
  /-- From a record to another one; the number tells such rules apart. -/
  | between (number : Nat) (first last : Expression)
deriving Inhabited

structure Rule where
  condition : Condition
  action : Statement
deriving Inhabited

structure Function where
  parameters : List Octets
  body : Statement
deriving Inhabited

structure Rules where
  /-- What is done before the first record. -/
  first : List Statement := []
  each : List Rule := []
  /-- What is done after the last record. -/
  last : List Statement := []
  functions : List (Octets × Function) := []
  lines : Nat := 1
deriving Inhabited

end InterfaceAudit.Tool.Awk
