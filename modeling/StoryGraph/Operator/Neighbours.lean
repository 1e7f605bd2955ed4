import StoryGraph.Operator.Body

/-!
# Neighbours

Two entries of a pool are neighbours when a property of one names the other by its id. The
operator gives the entries at an exact distance from some entries: a search goes from neighbour to
neighbour, breadth first, until it is deep enough.

Main definitions: `relations`, `Search.explore`, `entriesAtDistance`.
-/

namespace StoryGraph.Operator

/-! ## References -/

def reference? : Value → Option String
  | .text s => some s
  | .number n => some (Value.number n).display
  | _ => none

mutual

/-- All bare values in a value, at any depth. -/
def references : Value → List String
  | .list items => referencesOf items
  | .record fields => referencesIn fields
  | value => (reference? value).toList

def referencesOf : List Value → List String
  | [] => []
  | item :: rest => references item ++ referencesOf rest

def referencesIn : List (String × Value) → List String
  | [] => []
  | (_, value) :: rest => references value ++ referencesIn rest

end

/-- What the properties of a record refer to; its own id aside. -/
def entryReferences : Value → List String
  | .record fields => referencesIn (Fields.erase fields "id")
  | _ => []

/-! ## Pool -/

/-- The positions of the ids in a pool. Of entries with one id the last counts. -/
def position? (ids : List (Option String)) (id : String) : Option Nat :=
  (ids.zipIdx.reverse.find? fun (other, _) => other == some id).map (·.2)

/-- The positions that each entry refers to, without its own. -/
def targets (pool : List Value) : List (List Nat) :=
  let ids := pool.map Value.id?
  pool.zipIdx.map fun (entry, position) =>
    ((entryReferences entry).filterMap (position? ids)).filter (· != position)

def link (a b : Nat) (neighbours : List (List Nat)) : List (List Nat) :=
  neighbours.modify a fun known => if known.contains b then known else known ++ [b]

/-- The neighbours of each entry: those that it refers to, and those that refer to it. -/
def relations (targets : List (List Nat)) : List (List Nat) :=
  targets.zipIdx.foldl (fun neighbours (found, a) =>
    found.foldl (fun neighbours b => link b a (link a b neighbours)) neighbours)
    (targets.map fun _ => [])

def startPosition? (ids : List (Option String)) (start : Value) : Option Nat :=
  ((reference? start).orElse fun _ => start.id?).bind (position? ids)

/-! ## Search -/

/-- A search on its way: how deep each position was found, and the positions whose neighbours are
still to be looked at, the first found first. -/
structure Search where
  depths : List (Option Nat)
  queue : List Nat

namespace Search

def empty (size : Nat) : Search := ⟨List.replicate size none, []⟩

def find (depth : Nat) (search : Search) (position : Nat) : Search :=
  if search.depths[position]? = some none then
    ⟨search.depths.set position (some depth), search.queue ++ [position]⟩
  else search

/-- Finds the neighbours of a position one deeper than itself; not if it is at the distance. -/
def visit (neighbours : List (List Nat)) (distance : Nat) (search : Search) (position : Nat) :
    Search :=
  match search.depths[position]? with
  | some (some level) =>
    if distance ≤ level then search
    else (neighbours.getD position []).foldl (find (level + 1)) search
  | _ => search

/-- How many positions are still to be found or to be looked at. -/
def work (search : Search) : Nat := search.depths.count none + search.queue.length

theorem work_find (depth : Nat) (search : Search) (position : Nat) :
    (search.find depth position).work = search.work := by
  unfold find work
  split
  · rename_i hnew
    obtain ⟨hlt, hget⟩ := List.getElem?_eq_some_iff.mp hnew
    have hcount : 0 < search.depths.count none :=
      List.count_pos_iff.mpr (hget ▸ List.getElem_mem hlt)
    simp only [List.count_set hlt, hget, beq_self_eq_true, reduceCtorEq, beq_iff_eq, ↓reduceIte,
      List.length_append, List.length_singleton]
    omega
  · rfl

theorem work_foldl (depth : Nat) (positions : List Nat) (search : Search) :
    (positions.foldl (find depth) search).work = search.work := by
  induction positions generalizing search with
  | nil => rfl
  | cons position rest ih => rw [List.foldl_cons, ih, work_find]

theorem work_visit (neighbours : List (List Nat)) (distance : Nat) (search : Search)
    (position : Nat) : (search.visit neighbours distance position).work = search.work := by
  unfold visit
  split
  · split
    · rfl
    · exact work_foldl _ _ _
  · rfl

/-- Visits what is in the queue, and what comes to it, and tells how deep each position was found. -/
def explore (neighbours : List (List Nat)) (distance : Nat) : Search → List (Option Nat)
  | ⟨depths, []⟩ => depths
  | ⟨depths, position :: rest⟩ =>
    explore neighbours distance (visit neighbours distance ⟨depths, rest⟩ position)
termination_by search => search.work
decreasing_by
  rw [work_visit]
  exact Nat.lt_succ_self _

end Search

/-- How deep each entry of a pool is found, up to a distance, by a search that begins at the given
positions in the given order. -/
def depthsFrom (pool : List Value) (order : List Nat) (distance : Nat) : List (Option Nat) :=
  Search.explore (relations (targets pool)) distance
    (order.foldl (Search.find 0) (.empty pool.length))

def entriesFrom (pool : List Value) (order : List Nat) (distance : Nat) : List Value :=
  let depths := depthsFrom pool order distance
  (pool.zipIdx.filter fun (_, position) => depths[position]? == some (some distance)).map (·.1)

/-- The entries of a pool whose shortest distance from the start is as given, in pool order. -/
def entriesAtDistance (pool starts : List Value) (distance : Nat) : List Value :=
  entriesFrom pool (starts.filterMap (startPosition? (pool.map Value.id?))) distance

/-- Entries at a distance from the given ones, in the given pool or among all entries. -/
def adjacency (site : Site) : Body Outputs := do
  let starts ← Body.askItems "entries"
  let pool ← if site.hasInput "pool" then Body.askItems "pool" else pure site.entries
  let distance ← Body.askCount "distance" 1
  let found := entriesAtDistance pool starts distance
  return (Outputs.single "entries" (.list found)).add "count" (.ofNat found.length)

end StoryGraph.Operator
