import Mathlib.Combinatorics.SimpleGraph.Walk.Operations
import StoryGraph.Operator.Neighbours

/-!
# Searching breadth first

A search that works off its queue finds each position at the length of the shortest walks to it,
if it looks far enough. Three facts about the queue carry this: depths ascend along it, nothing
found is more than one deeper than a position in it, and what left it has all its neighbours found.
So the order in which the starts, and the neighbours of a position, are looked at has no weight.

Main definitions: `AtDistance`, `Search.IsLevel`. Main result: `explore_eq_distance_iff`.
-/

namespace StoryGraph.Operator

/-! ## Distances -/

def Reaches (G : SimpleGraph Nat) (starts : Set Nat) (length position : Nat) : Prop :=
  ∃ start ∈ starts, ∃ walk : G.Walk start position, walk.length = length

/-- The shortest walks from the starts to the position have the length. -/
structure AtDistance (G : SimpleGraph Nat) (starts : Set Nat) (distance position : Nat) :
    Prop where
  reached : Reaches G starts distance position
  shortest : ∀ length, Reaches G starts length position → distance ≤ length

variable {G : SimpleGraph Nat} {starts : Set Nat} {p q : Nat}

theorem reaches_start (h : p ∈ starts) : Reaches G starts 0 p := ⟨p, h, .nil, rfl⟩

theorem Reaches.step {n : Nat} (h : Reaches G starts n p) (hadj : G.Adj p q) :
    Reaches G starts (n + 1) q := by
  obtain ⟨start, hstart, walk, rfl⟩ := h
  exact ⟨start, hstart, walk.concat hadj, walk.length_concat hadj⟩

namespace Search

variable {search : Search} {depth : Nat}

/-! ## Finding -/

def Found (search : Search) (position depth : Nat) : Prop :=
  search.depths[position]? = some (some depth)

def New (search : Search) (position : Nat) : Prop := search.depths[position]? = some none

theorem Found.unique {j k : Nat} (hj : search.Found p j) (hk : search.Found p k) : j = k :=
  Option.some.inj (Option.some.inj (hj.symm.trans hk))

theorem Found.not_new {k : Nat} (h : search.Found p k) : ¬search.New p := fun hnew =>
  nomatch Option.some.inj (h.symm.trans hnew)

theorem found_or_new (h : p < search.depths.length) : (∃ k, search.Found p k) ∨ search.New p := by
  have hget := List.getElem?_eq_getElem h
  cases hdepth : search.depths[p] with
  | none => exact .inr (hget.trans (congrArg some hdepth))
  | some k => exact .inl ⟨k, hget.trans (congrArg some hdepth)⟩

theorem find_of_new (h : search.New p) :
    search.find depth p = ⟨search.depths.set p (some depth), search.queue ++ [p]⟩ := if_pos h

theorem find_of_not_new (h : ¬search.New p) : search.find depth p = search := if_neg h

theorem found_find {k : Nat} : (search.find depth p).Found q k ↔
    search.Found q k ∨ k = depth ∧ q = p ∧ search.New p := by
  by_cases hnew : search.New p
  · rw [find_of_new hnew]
    show (search.depths.set p (some depth))[q]? = _ ↔ _
    by_cases hq : q = p
    · subst hq
      obtain ⟨hlt, -⟩ := List.getElem?_eq_some_iff.mp hnew
      rw [List.getElem?_set_self hlt]
      constructor
      · exact fun h => .inr ⟨(Option.some.inj (Option.some.inj h)).symm, rfl, hnew⟩
      · rintro (hfound | ⟨rfl, -, -⟩)
        · exact absurd hnew hfound.not_new
        · rfl
    · rw [List.getElem?_set_ne (Ne.symm hq)]
      exact ⟨.inl, fun h => h.resolve_right fun h => hq h.2.1⟩
  · rw [find_of_not_new hnew]
    exact ⟨.inl, fun h => h.resolve_right fun h => hnew h.2.2⟩

theorem new_find : (search.find depth p).New q ↔ search.New q ∧ q ≠ p := by
  by_cases hnew : search.New p
  · rw [find_of_new hnew]
    show (search.depths.set p (some depth))[q]? = _ ↔ _
    by_cases hq : q = p
    · subst hq
      obtain ⟨hlt, -⟩ := List.getElem?_eq_some_iff.mp hnew
      rw [List.getElem?_set_self hlt]
      exact ⟨fun h => (nomatch Option.some.inj h), fun h => absurd rfl h.2⟩
    · rw [List.getElem?_set_ne (Ne.symm hq)]
      exact ⟨fun h => ⟨h, hq⟩, And.left⟩
  · rw [find_of_not_new hnew]
    exact ⟨fun h => ⟨h, fun hq => hnew (hq ▸ h)⟩, And.left⟩

/-! ## Finding one after the other -/

structure Finds (depth : Nat) (positions : List Nat) (search found : Search) : Prop where
  length_depths : found.depths.length = search.depths.length
  found_iff : ∀ q k, found.Found q k ↔
    search.Found q k ∨ k = depth ∧ q ∈ positions ∧ search.New q
  queue : ∃ added, found.queue = search.queue ++ added ∧
    ∀ q, q ∈ added ↔ q ∈ positions ∧ search.New q

theorem finds_nil (depth : Nat) (search : Search) : Finds depth [] search search where
  length_depths := rfl
  found_iff _ _ := ⟨.inl, fun h => h.resolve_right fun h => nomatch h.2.1⟩
  queue := ⟨[], (List.append_nil _).symm, fun _ => ⟨nofun, fun h => nomatch h.1⟩⟩

theorem Finds.cons {positions : List Nat} {found : Search}
    (h : Finds depth positions (search.find depth p) found) :
    Finds depth (p :: positions) search found := by
  have hmem : ∀ q, (q ∈ positions ∧ (search.find depth p).New q) ∨ q = p ∧ search.New p ↔
      q ∈ p :: positions ∧ search.New q := by
    intro q
    rw [new_find, List.mem_cons]
    by_cases hq : q = p
    · subst hq
      tauto
    · tauto
  refine ⟨?_, fun q k => ?_, ?_⟩
  · by_cases hnew : search.New p
    · rw [h.length_depths, find_of_new hnew]
      exact List.length_set
    · rw [h.length_depths, find_of_not_new hnew]
  · rw [h.found_iff, found_find, ← hmem]
    tauto
  · obtain ⟨added, hqueue, hadded⟩ := h.queue
    by_cases hnew : search.New p
    · refine ⟨p :: added, ?_, fun q => ?_⟩
      · rw [hqueue, find_of_new hnew, List.append_assoc, List.singleton_append]
      · rw [List.mem_cons, hadded, ← hmem]
        tauto
    · refine ⟨added, by rw [hqueue, find_of_not_new hnew], fun q => ?_⟩
      rw [hadded, ← hmem]
      tauto

theorem finds_foldl (depth : Nat) (positions : List Nat) (search : Search) :
    Finds depth positions search (positions.foldl (find depth) search) := by
  induction positions generalizing search with
  | nil => exact finds_nil depth search
  | cons p rest ih => exact (ih (search.find depth p)).cons

/-! ## The search on its way -/

structure IsLevel (G : SimpleGraph Nat) (starts : Set Nat) (distance : Nat) (search : Search) :
    Prop where
  reached : ∀ p k, search.Found p k → Reaches G starts k p
  bounded : ∀ p k, search.Found p k → k ≤ distance
  begun : ∀ p ∈ starts, search.Found p 0
  queued : ∀ p ∈ search.queue, ∃ k, search.Found p k
  /-- Depths ascend along the queue. -/
  ascending : search.queue.Pairwise fun p q =>
    ∀ j k, search.Found p j → search.Found q k → j ≤ k
  /-- Nothing is found more than one deeper than a position in the queue. -/
  even : ∀ p j, search.Found p j → ∀ q ∈ search.queue, ∀ k, search.Found q k → j ≤ k + 1
  /-- The neighbours of what has left the queue are found. -/
  closed : ∀ p k, search.Found p k → p ∉ search.queue → k < distance →
    ∀ q, G.Adj p q → ∃ j ≤ k + 1, search.Found q j

variable {distance : Nat}

/-- **The beginning.** All starts are in the queue, at no depth, in any order. -/
theorem level_start {size : Nat} {order : List Nat} (horder : ∀ p, p ∈ order ↔ p ∈ starts)
    (hsize : ∀ p ∈ starts, p < size) :
    IsLevel G starts distance (order.foldl (find 0) (empty size)) := by
  obtain ⟨-, hfound, added, hqueue, hadded⟩ := finds_foldl 0 order (empty size)
  have hempty : ∀ q k, ¬(empty size).Found q k := by
    intro q k h
    have hmem := List.mem_of_getElem? h
    exact nomatch (List.mem_replicate.mp hmem).2
  have hnew : ∀ q, (empty size).New q ↔ q < size := by
    intro q
    unfold New empty
    rw [List.getElem?_replicate]
    split <;> simp_all
  have hstart : ∀ q k, (order.foldl (find 0) (empty size)).Found q k ↔ k = 0 ∧ q ∈ starts := by
    intro q k
    rw [hfound, hnew, horder]
    exact ⟨fun h => h.elim (absurd · (hempty q k)) fun h => ⟨h.1, h.2.1⟩,
      fun h => .inr ⟨h.1, h.2, hsize q h.2⟩⟩
  have hmem : ∀ q, q ∈ (order.foldl (find 0) (empty size)).queue ↔ q ∈ starts := by
    intro q
    rw [hqueue, show (empty size).queue = [] from rfl, List.nil_append, hadded, hnew, horder]
    exact ⟨And.left, fun h => ⟨h, hsize q h⟩⟩
  constructor
  · intro p k h
    obtain ⟨rfl, hp⟩ := (hstart p k).mp h
    exact reaches_start hp
  · intro p k h
    rw [((hstart p k).mp h).1]
    exact Nat.zero_le _
  · exact fun p hp => (hstart p 0).mpr ⟨rfl, hp⟩
  · exact fun p hp => ⟨0, (hstart p 0).mpr ⟨rfl, (hmem p).mp hp⟩⟩
  · refine List.pairwise_of_forall fun p q j k hj _ => ?_
    rw [((hstart p j).mp hj).1]
    exact Nat.zero_le _
  · intro p j hj q _ k _
    rw [((hstart p j).mp hj).1]
    exact Nat.zero_le _
  · intro p k h hp
    exact absurd ((hmem p).mpr ((hstart p k).mp h).2) hp

variable {neighbours : List (List Nat)} {depths : List (Option Nat)} {rest : List Nat}

theorem IsLevel.skip (h : IsLevel G starts distance ⟨depths, p :: rest⟩) {level : Nat}
    (hlevel : Search.Found ⟨depths, p :: rest⟩ p level) (hfar : distance ≤ level) :
    IsLevel G starts distance ⟨depths, rest⟩ where
  reached := h.reached
  bounded := h.bounded
  begun := h.begun
  queued q hq := h.queued q (List.mem_cons_of_mem p hq)
  ascending := (List.pairwise_cons.mp h.ascending).2
  even q j hj r hr := h.even q j hj r (List.mem_cons_of_mem p hr)
  closed q k hk hq hlt := by
    refine h.closed q k hk (fun hmem => ?_) hlt
    rcases List.mem_cons.mp hmem with rfl | hmem
    · exact absurd (hlevel.unique hk ▸ hfar) (Nat.not_le.mpr hlt)
    · exact hq hmem

/-- Nearer than the distance all neighbours are found, if they were not before. -/
theorem IsLevel.expand (h : IsLevel G starts distance ⟨depths, p :: rest⟩) {level : Nat}
    (hlevel : Search.Found ⟨depths, p :: rest⟩ p level) (hnear : level < distance)
    {positions : List Nat} (hpositions : ∀ q, q ∈ positions ↔ G.Adj p q)
    (hsize : ∀ q, G.Adj p q → q < depths.length) {found : Search}
    (hfound : Finds (level + 1) positions ⟨depths, rest⟩ found) :
    IsLevel G starts distance found := by
  obtain ⟨hfirst, hrest⟩ := List.pairwise_cons.mp h.ascending
  obtain ⟨-, hiff, added, hqueue, hadded⟩ := hfound
  have hhead : ∀ q j, Search.Found ⟨depths, p :: rest⟩ q j → j ≤ level + 1 :=
    fun q j hj => h.even q j hj p List.mem_cons_self level hlevel
  have hold : ∀ {q k}, Search.Found ⟨depths, p :: rest⟩ q k → found.Found q k :=
    fun hk => (hiff _ _).mpr (.inl hk)
  have hnew : ∀ {q}, q ∈ added → found.Found q (level + 1) :=
    fun hq => (hiff _ _).mpr (.inr ⟨rfl, (hadded _).mp hq⟩)
  have hle : ∀ {q j}, found.Found q j → j ≤ level + 1 := by
    intro q j hj
    rcases (hiff q j).mp hj with hj | ⟨rfl, -⟩
    · exact hhead q j hj
    · exact Nat.le_refl _
  have hge : ∀ {q k}, q ∈ rest ++ added → found.Found q k → level ≤ k := by
    intro q k hq hk
    rcases List.mem_append.mp hq with hq | hq
    · obtain ⟨j, hj⟩ := h.queued q (List.mem_cons_of_mem p hq)
      rw [hk.unique (hold hj)]
      exact hfirst q hq level j hlevel hj
    · rw [hk.unique (hnew hq)]
      exact Nat.le_succ level
  constructor
  · intro q k hk
    rcases (hiff q k).mp hk with hk | ⟨rfl, hq, -⟩
    · exact h.reached q k hk
    · exact (h.reached p level hlevel).step ((hpositions q).mp hq)
  · intro q k hk
    rcases (hiff q k).mp hk with hk | ⟨rfl, -⟩
    · exact h.bounded q k hk
    · exact hnear
  · exact fun q hq => hold (h.begun q hq)
  · intro q hq
    rw [hqueue] at hq
    rcases List.mem_append.mp hq with hq | hq
    · obtain ⟨k, hk⟩ := h.queued q (List.mem_cons_of_mem p hq)
      exact ⟨k, hold hk⟩
    · exact ⟨_, hnew hq⟩
  · rw [hqueue]
    refine List.pairwise_append.mpr ⟨?_, ?_, ?_⟩
    · refine hrest.imp_of_mem fun {q r} hq hr hqr j k hj hk => ?_
      obtain ⟨j', hj'⟩ := h.queued q (List.mem_cons_of_mem p hq)
      obtain ⟨k', hk'⟩ := h.queued r (List.mem_cons_of_mem p hr)
      rw [hj.unique (hold hj'), hk.unique (hold hk')]
      exact hqr j' k' hj' hk'
    · refine List.pairwise_of_forall_mem_list fun q _ r hr j k hj hk => ?_
      rw [hk.unique (hnew hr)]
      exact hle hj
    · intro q _ r hr j k hj hk
      rw [hk.unique (hnew hr)]
      exact hle hj
  · intro q j hj r hr k hk
    rw [hqueue] at hr
    exact Nat.le_trans (hle hj) (Nat.succ_le_succ (hge hr hk))
  · intro q k hk hq hlt r hadj
    rw [hqueue, List.mem_append, not_or] at hq
    rcases (hiff q k).mp hk with hk | ⟨-, hnewq⟩
    · by_cases hqp : q = p
      · -- The neighbours of what is visited are found now, at the latest.
        subst hqp
        rw [← hlevel.unique hk]
        have hlt : r < (Search.mk depths rest).depths.length := hsize r hadj
        rcases found_or_new hlt with ⟨j, hj⟩ | hr
        · exact ⟨j, hhead r j hj, hold hj⟩
        · exact ⟨level + 1, Nat.le_refl _,
            hnew ((hadded r).mpr ⟨(hpositions r).mpr hadj, hr⟩)⟩
      · have hqueued : q ∉ p :: rest := fun hmem => (List.mem_cons.mp hmem).elim hqp hq.1
        obtain ⟨j, hj, hr⟩ := h.closed q k hk hqueued hlt r hadj
        exact ⟨j, hj, hold hr⟩
    · exact absurd ((hadded q).mpr hnewq) hq.2

/-- The neighbours are those in the graph, and all of them can be found. -/
structure Lists (G : SimpleGraph Nat) (neighbours : List (List Nat)) (size : Nat) : Prop where
  mem_iff : ∀ p q, q ∈ neighbours.getD p [] ↔ G.Adj p q
  bounded : ∀ p q, G.Adj p q → q < size

/-- **One step.** The first position in the queue is visited. -/
theorem IsLevel.visit (hlists : Lists G neighbours depths.length)
    (h : IsLevel G starts distance ⟨depths, p :: rest⟩) :
    IsLevel G starts distance (Search.visit neighbours distance ⟨depths, rest⟩ p) ∧
      (Search.visit neighbours distance ⟨depths, rest⟩ p).depths.length = depths.length := by
  obtain ⟨level, hlevel⟩ := h.queued p List.mem_cons_self
  have hdepth : depths[p]? = some (some level) := hlevel
  unfold Search.visit
  simp only [hdepth]
  split
  · rename_i hfar
    exact ⟨h.skip hlevel hfar, rfl⟩
  · rename_i hnear
    have hfinds := finds_foldl (level + 1) (neighbours.getD p []) ⟨depths, rest⟩
    exact ⟨h.expand hlevel (Nat.not_le.mp hnear) (hlists.mem_iff p) (hlists.bounded p) hfinds,
      hfinds.length_depths⟩

/-- **A whole run.** When the queue is worked off, the search has come to its end. -/
theorem IsLevel.explore {search : Search} (h : IsLevel G starts distance search)
    (hlists : Lists G neighbours search.depths.length) :
    IsLevel G starts distance ⟨search.explore neighbours distance, []⟩ := by
  fun_induction Search.explore neighbours distance search with
  | case1 depths => exact h
  | case2 depths p rest ih =>
      obtain ⟨hvisit, hlength⟩ := h.visit hlists
      exact ih hvisit (hlength ▸ hlists)

/-! ## What was found at the end -/

/-- Along a walk that the distance covers everything is found, no deeper than the walk is long. -/
theorem IsLevel.along {depths : List (Option Nat)} (h : IsLevel G starts distance ⟨depths, []⟩)
    {p q : Nat} (walk : G.Walk p q) : ∀ {k : Nat}, Search.Found ⟨depths, []⟩ p k →
      k + walk.length ≤ distance → ∃ j ≤ k + walk.length, Search.Found ⟨depths, []⟩ q j := by
  induction walk with
  | nil => exact fun {k} hk _ => ⟨k, Nat.le_refl k, hk⟩
  | cons hadj walk ih =>
      intro k hk hlength
      rw [SimpleGraph.Walk.length_cons] at hlength ⊢
      obtain ⟨i, hi, hfound⟩ := h.closed _ k hk List.not_mem_nil (by omega) _ hadj
      obtain ⟨j, hj, hend⟩ := ih hfound (by omega)
      exact ⟨j, by omega, hend⟩

/-- **At the end, what was found at the distance is at the distance.** -/
theorem IsLevel.found_iff {depths : List (Option Nat)}
    (h : IsLevel G starts distance ⟨depths, []⟩) :
    Search.Found ⟨depths, []⟩ p distance ↔ AtDistance G starts distance p := by
  have hnear : ∀ {n}, Reaches G starts n p → n ≤ distance →
      ∃ j ≤ n, Search.Found ⟨depths, []⟩ p j := by
    rintro n ⟨start, hstart, walk, rfl⟩ hn
    obtain ⟨j, hj, hfound⟩ := h.along walk (h.begun start hstart) (by omega)
    exact ⟨j, by omega, hfound⟩
  constructor
  · intro hfound
    refine ⟨h.reached p distance hfound, fun n hn => ?_⟩
    by_contra hlt
    obtain ⟨j, hj, hearlier⟩ := hnear hn (by omega)
    have := hfound.unique hearlier
    omega
  · intro hdistance
    obtain ⟨j, hj, hfound⟩ := hnear hdistance.reached (Nat.le_refl distance)
    have := hdistance.shortest j (h.reached p j hfound)
    obtain rfl : j = distance := by omega
    exact hfound

end Search

/-- **A search finds what is at the distance.** In whatever order the starts are looked at, it finds
at the distance exactly what the shortest walks reach there. -/
theorem explore_eq_distance_iff {neighbours : List (List Nat)} {size : Nat}
    (hlists : Search.Lists G neighbours size) (hstarts : ∀ p ∈ starts, p < size)
    {order : List Nat} (horder : ∀ p, p ∈ order ↔ p ∈ starts) (distance p : Nat) :
    (Search.explore neighbours distance (order.foldl (Search.find 0) (.empty size)))[p]? =
      some (some distance) ↔ AtDistance G starts distance p := by
  have hlevel : Search.IsLevel G starts distance (order.foldl (Search.find 0) (.empty size)) :=
    Search.level_start horder hstarts
  have hlength : (order.foldl (Search.find 0) (.empty size)).depths.length = size :=
    (Search.finds_foldl 0 order (.empty size)).length_depths.trans List.length_replicate
  exact (hlevel.explore (by rwa [hlength])).found_iff

end StoryGraph.Operator
