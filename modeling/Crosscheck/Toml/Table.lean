import Crosscheck.Toml.Value

/-!
# Tables in the making

A table may come about in three ways: by a heading of its own, on the way to another
table, or by a key with dots. Which of them it was decides what may still be added to
it; a table that was once written in full is never added to.
-/

namespace Crosscheck.Toml

/-- How a table came about. -/
inductive Origin where
  /-- It has a heading. -/
  | heading
  /-- A heading leads through it. -/
  | implied
  /-- A key with dots leads through it. -/
  | dotted
  deriving DecidableEq, Repr

/-- A member of a table in the making. -/
inductive Item where
  | value (value : Value)
  | table (origin : Origin) (members : List (String × Item))
  /-- Several tables under repeated headings. -/
  | tables (tables : List (List (String × Item)))
  deriving Inhabited

/-- The members of a table in the making. -/
abbrev Members := List (String × Item)

namespace Members

/-- The member with a key. -/
def get? (members : Members) (key : String) : Option Item := members.lookup key

/-- Put a member in place of the one with its key, or at the end. -/
def put (key : String) (item : Item) : Members → Members
  | [] => [(key, item)]
  | (other, current) :: rest =>
    if other = key then (key, item) :: rest else (other, current) :: put key item rest

/-- Take the member with a key away. -/
def erase (members : Members) (key : String) : Members :=
  members.filter fun (other, _) => other ≠ key

/-- Change the last of several tables. -/
def changeLast (change : Members → Option Members) : List Members → Option (List Members)
  | [] => none
  | [last] => (change last).map ([·])
  | first :: rest => (changeLast change rest).map (first :: ·)

/-- Add a value under a key, which may have dots and may not have been used before. A key
with dots adds to tables only that such keys have made. -/
def define (value : Value) : List String → Members → Option Members
  | [], _ => none
  | [key], members =>
    match members.get? key with
    | some _ => none
    | none => some (members.put key (.value value))
  | key :: next :: rest, members =>
    match members.get? key with
    | none => do return members.put key (.table .dotted (← define value (next :: rest) []))
    | some (.table .dotted inner) => do
      return members.put key (.table .dotted (← define value (next :: rest) inner))
    | some (.table .implied inner) =>
      if rest.isEmpty then none
      else do return members.put key (.table .implied (← define value (next :: rest) inner))
    | some (.tables tables) =>
      if rest.isEmpty then none
      else do return members.put key (.tables (← changeLast (define value (next :: rest)) tables))
    | some (.table .heading _) => none
    | some (.value _) => none

/-- Change the table that a heading leads to; of repeated tables it means the last one. -/
def reach (change : Members → Option Members) : List String → Members → Option Members
  | [], members => change members
  | key :: rest, members =>
    match members.get? key with
    | none => do return members.put key (.table .implied (← reach change rest []))
    | some (.table origin inner) => do
      return members.put key (.table origin (← reach change rest inner))
    | some (.tables tables) => do
      return members.put key (.tables (← changeLast (reach change rest) tables))
    | some (.value _) => none

/-- Define several values in order. -/
def defineAll (pairs : List (List String × Value)) (members : Members) : Option Members :=
  pairs.foldlM (fun members (key, value) => define value key members) members

/-- Put a table with a heading among the members of its parent. What a heading led
through before may be given its own heading once. -/
def addTable (key : String) (pairs : List (List String × Value)) (members : Members) :
    Option Members :=
  match members.get? key with
  | none => do return members.put key (.table .heading (← defineAll pairs []))
  | some (.table .implied inner) => do
    return (members.erase key).put key (.table .heading (← defineAll pairs inner))
  | some _ => none

/-- Put one more of several tables among the members of its parent. -/
def addRepeated (key : String) (pairs : List (List String × Value)) (members : Members) :
    Option Members :=
  match members.get? key with
  | none => do return members.put key (.tables [← defineAll pairs []])
  | some (.tables tables) => do
    return members.put key (.tables (tables ++ [← defineAll pairs []]))
  | some _ => none

end Members

mutual

/-- The value of a member. -/
def Item.toValue : Item → Value
  | .value inner => inner
  | .table _ members => .table (Members.toValues members)
  | .tables tables => .array (Members.toTables tables)

/-- The values of members. -/
def Members.toValues : List (String × Item) → List (String × Value)
  | [] => []
  | (key, item) :: rest => (key, item.toValue) :: Members.toValues rest

/-- The values of several tables. -/
def Members.toTables : List (List (String × Item)) → List Value
  | [] => []
  | members :: rest => .table (Members.toValues members) :: Members.toTables rest

end

end Crosscheck.Toml
