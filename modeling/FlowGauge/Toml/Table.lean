import FlowGauge.Document.Node

/-! How the lines of a TOML text put tables together.

A table can be opened once by a header of its own. Until then it may exist because a header named
something below it; a table that exists because of a dotted key is closed to headers. -/
namespace FlowGauge.Toml
open Document (Node)

/-- How a table came to be. -/
inductive Origin where
  | header
  /-- A header names something below it. -/
  | implied
  | dotted
  deriving Repr, DecidableEq

inductive Item where
  | value (node : Node)
  | table (origin : Origin) (entries : List (String × Item))
  /-- Tables under one name, each opened by a header. -/
  | tables (items : List (List (String × Item)))
  deriving Inhabited

abbrev Entries := List (String × Item)

mutual

def Item.node : Item → Node
  | .value n => n
  | .table _ entries => .table (entryNodes entries)
  | .tables items => .list (tableNodes items)

def entryNodes : Entries → List (String × Node)
  | [] => []
  | (k, i) :: rest => (k, i.node) :: entryNodes rest

def tableNodes : List Entries → List Node
  | [] => []
  | t :: rest => .table (entryNodes t) :: tableNodes rest

end

namespace Entries

/-- `item` under `key`, in the place of the entry that is there or at the end. -/
def put (key : String) (item : Item) : Entries → Entries
  | [] => [(key, item)]
  | (k, i) :: rest => if k = key then (k, item) :: rest else (k, i) :: put key item rest

def remove (key : String) (entries : Entries) : Entries :=
  entries.filter fun e => e.1 ≠ key

/-- A change to the entries of a table, which may be refused. -/
abbrev Change := Origin → Entries → Option Entries

/-- Makes a change at the end of a path, of a key or of a header. Tables on the way are made as they
are needed; of tables under one name the last one is meant. A key cannot pass through a table that
has a header. -/
def descend (byKey : Bool) (change : Change) (origin : Origin) (entries : Entries) :
    List String → Option Entries
  | [] => change origin entries
  | step :: path =>
    match entries.lookup step with
    | none => do
      let origin := if byKey then .dotted else .implied
      let inner ← descend byKey change origin [] path
      return entries ++ [(step, .table origin inner)]
    | some (.value _) => none
    | some (.table origin inner) =>
      if byKey ∧ origin = .header then none
      else do
        let inner ← descend byKey change origin inner path
        return put step (.table origin inner) entries
    | some (.tables items) => do
      let inner ← descend byKey change .header (items.getLast?.getD []) path
      return put step (.tables (items.dropLast ++ [inner])) entries

/-- Adds an entry. Behind a path it has to go to a table made by dotted keys, without one to any
other table. -/
def addAt (entries : Entries) (path : List String) (key : String) (node : Node) :
    Option Entries :=
  descend true
    (fun origin entries =>
      if origin = .dotted ↔ path = [] then none
      else if (entries.lookup key).isSome then none
      else some (entries ++ [(key, .value node)]))
    .header entries path

end Entries

/-- The path to the table and the last key of a dotted key. -/
def splitKey (key : List String) : List String × String :=
  (key.dropLast, key.getLast?.getD "")

def Entries.add (entries : Entries) (key : List String) (node : Node) : Option Entries :=
  let (path, last) := splitKey key
  entries.addAt path last node

inductive Line where
  | entry (key : List String) (node : Node)
  | header (path : List String)
  /-- Opens one more table under a name. -/
  | append (path : List String)

/-- The tables that are complete, and the one that the last header opened. -/
structure Assembly where
  root : Entries
  current : Entries
  path : List String
  appends : Bool

namespace Assembly

def start : Assembly :=
  ⟨[], [], [], false⟩

/-- Changes the table above the end of a header's path. -/
def above (root : Entries) (path : List String) (change : Entries → String → Option Entries) :
    Option Entries :=
  let (outer, name) := splitKey path
  Entries.descend false (fun _ entries => change entries name) .header root outer

/-- Puts the open table into its place. -/
def finish (a : Assembly) : Option Entries :=
  if a.path = [] then some a.current
  else
    above a.root a.path fun entries name =>
      match entries.lookup name, a.appends with
      | none, true => some (entries ++ [(name, .tables [a.current])])
      | none, false => some (entries ++ [(name, .table .header a.current)])
      | some (.tables items), true => some (entries.put name (.tables (items ++ [a.current])))
      | _, _ => none

/-- A header opens a table that is new or only implied so far, and takes its entries over. -/
def openTable (a : Assembly) (path : List String) : Option Assembly := do
  let root ← a.finish
  let (outer, name) := splitKey path
  let taken ← found root outer name
  let root ← above root path fun entries name => some (entries.remove name)
  return ⟨root, taken, path, false⟩
where
  /-- The entries that the table has already. -/
  found (root : Entries) (outer : List String) (name : String) : Option Entries :=
    match lookupAt root outer name with
    | none => some []
    | some (.table .implied entries) => some entries
    | some _ => none
  lookupAt (entries : Entries) (outer : List String) (name : String) : Option Item :=
    match outer with
    | [] => entries.lookup name
    | step :: outer =>
      match entries.lookup step with
      | some (.table _ inner) => lookupAt inner outer name
      | some (.tables items) => lookupAt (items.getLast?.getD []) outer name
      | _ => none

def appendTable (a : Assembly) (path : List String) : Option Assembly := do
  let root ← a.finish
  let root ← above root path fun entries name =>
    match entries.lookup name with
    | none => some (entries ++ [(name, .tables [])])
    | some (.tables _) => some entries
    | some _ => none
  return ⟨root, [], path, true⟩

def line (a : Assembly) : Line → Option Assembly
  | .entry key node => do
    return { a with current := ← a.current.add key node }
  | .header path => a.openTable path
  | .append path => a.appendTable path

end Assembly

/-- The tree that the lines of a text make. -/
def assemble (lines : List Line) : Option Node := do
  let a ← lines.foldlM Assembly.line Assembly.start
  return .table (entryNodes (← a.finish))

/-- The table written on one line, from its keys and values. -/
def inlineTable (pairs : List (List String × Node)) : Option Node := do
  let entries ← pairs.foldlM (fun (e : Entries) (key, node) => e.add key node) []
  return .table (entryNodes entries)

end FlowGauge.Toml
