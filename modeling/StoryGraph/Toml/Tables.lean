import StoryGraph.Toml.Strings

/-!
# TOML tables

How keys and headers build up tables. A header may define a table once; a dotted key may extend
only tables that dotted keys have made.

Main definitions: `Item.assign`, `Item.openTable`, `Item.openElement`.
-/

namespace StoryGraph.Toml

/-- How a table came to be. -/
inductive Origin where
  /-- By a header of its own. -/
  | header
  /-- As a step on the way of a header. -/
  | path
  /-- As a step on the way of a dotted key. -/
  | dotted
deriving DecidableEq

inductive Item where
  | value (tree : Tree)
  | table (origin : Origin) (entries : List (String × Item))
  /-- The tables of an array, last one first. -/
  | tables (reversed : List (List (String × Item)))

abbrev Entries := List (String × Item)

/-- Changes what stands under a key, or puts something there; the key keeps its place. -/
def alter (key : String) (change : Option Item → Option Item) : Entries → Option Entries
  | [] => (change none).map fun item => [(key, item)]
  | (other, item) :: rest =>
    if other = key then (change (some item)).map fun item => (key, item) :: rest
    else (alter key change rest).map ((other, item) :: ·)

/-- Goes down the way of a header and changes the entries at its end. Missing tables are made, and
an array stands for its last table. -/
def descend (change : Entries → Option Entries) : List String → Entries → Option Entries
  | [], entries => change entries
  | key :: path, entries =>
    alter key (fun
      | none => (descend change path []).map (.table .path)
      | some (.table origin inner) => (descend change path inner).map (.table origin)
      | some (.tables (last :: earlier)) =>
        (descend change path last).map fun last => .tables (last :: earlier)
      | some _ => none) entries

def assign (tree : Tree) : List String → Entries → Option Entries
  | [], _ => none
  | [key], entries =>
    alter key (fun
      | none => some (.value tree)
      | some _ => none) entries
  | key :: next :: path, entries =>
    alter key (fun
      | none => (assign tree (next :: path) []).map (.table .dotted)
      | some (.table inner old) =>
        if inner = .dotted then (assign tree (next :: path) old).map (.table .dotted)
        else none
      | some _ => none) entries

/-- Defines a table by a header. It may have been a step on the way of another header. -/
def openTable (path : List String) (entries : Entries) : Option Entries :=
  match path.getLast? with
  | none => none
  | some key =>
    descend (alter key (fun
      | none => some (.table .header [])
      | some (.table .path inner) => some (.table .header inner)
      | some _ => none)) path.dropLast entries

def openElement (path : List String) (entries : Entries) : Option Entries :=
  match path.getLast? with
  | none => none
  | some key =>
    descend (alter key (fun
      | none => some (.tables [[]])
      | some (.tables reversed) => some (.tables ([] :: reversed))
      | some _ => none)) path.dropLast entries

mutual

def Item.toTree : Item → Tree
  | .value tree => tree
  | .table _ entries => .record (entriesToMembers entries)
  | .tables reversed => .list (tablesToTrees reversed).reverse

def entriesToMembers : List (String × Item) → List (Option String × Tree)
  | [] => []
  | (key, item) :: rest => (some key, item.toTree) :: entriesToMembers rest

def tablesToTrees : List (List (String × Item)) → List Tree
  | [] => []
  | entries :: rest => .record (entriesToMembers entries) :: tablesToTrees rest

end

end StoryGraph.Toml
