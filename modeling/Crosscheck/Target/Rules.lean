import Crosscheck.Statement
import Crosscheck.Target.Harness

/-!
# Harnesses given by rules

An engine for experiments. Each statement meets the first rule whose start it has; a
rule reports edges, takes time, ends the run in one of several ways, or adds to the
result. Text of a rule names the statement by a pair of braces.
-/

namespace Crosscheck

/-- What happens to a statement with a certain start. -/
structure Rule where
  start : String
  hits : List UInt32 := []
  pause : Nat := 0
  unwound : Option Payload := none
  fault : Option FaultKind := none
  error : Option String := none
  changes : UInt64 := 0
  row : Option (List String) := none
  deriving DecidableEq, Repr

/-- Rules, and whether every octet of the input is reported as an edge first. -/
structure Rules where
  rules : List Rule := []
  reportsOctets : Bool := false
  deriving DecidableEq, Repr

namespace Rules

/-- Put the statement where the text has a pair of braces. -/
def fill (statement : List Char) : List Char → List Char
  | [] => []
  | '\x7b' :: '\x7d' :: rest => statement ++ fill statement rest
  | char :: rest => char :: fill statement rest

/-- Put the statement where a text has a pair of braces. -/
def fillString (statement text : String) : String :=
  String.ofList (fill statement.toList text.toList)

/-- The rule for a statement. -/
def rule? (rules : Rules) (statement : String) : Option Rule :=
  rules.rules.find? fun rule => rule.start.toList.isPrefixOf statement.toList

/-- The result of a run that no rule has ended. -/
def summary (changes : UInt64) (rows : List (List String)) : HarnessResult :=
  if rows.isEmpty then .output (.changes changes) else .output (.rows rows)

/-- Run statements on top of what earlier ones have counted and selected. -/
def runAll (rules : Rules) (changes : UInt64) (rows : List (List String)) :
    List String → List Action × HarnessResult
  | [] => ([], summary changes rows)
  | statement :: rest =>
    match rules.rule? statement with
    | none => runAll rules changes rows rest
    | some rule =>
      let actions := rule.hits.map Action.hit ++ [.pause rule.pause]
      match rule.unwound, rule.fault, rule.error with
      | some payload, _, _ => (actions, .unwound payload)
      | none, some kind, _ => (actions, .fault kind)
      | none, none, some text => (actions, .output (.error (fillString statement text)))
      | none, none, none =>
        let row := (rule.row.map fun cells => cells.map (fillString statement)).toList
        let (later, result) := runAll rules (changes + rule.changes) (rows ++ row) rest
        (actions ++ later, result)

/-- The harness that follows the rules. -/
def harness (rules : Rules) : Harness := fun _ input =>
  let octets := if rules.reportsOctets then input.map fun octet => Action.hit octet.toUInt32 else []
  let (actions, result) := runAll rules 0 [] (Statement.split input)
  ⟨octets ++ actions, result⟩

end Rules
end Crosscheck
