import Mathlib.Data.List.Nodup
import Mathlib.Data.List.Perm.Subperm
import Mathlib.Logic.Relation
import Nixfleet.Lib.Table

set_option autoImplicit false

/-!
# The cycle check of ordering edges

`hasCycle` walks the edges depth first, from a dependent to its predecessors, with the path to
the current node and the list of nodes already visited. Nix bounds no recursion; here `visit`
takes fuel, and one unit per node and one more is always enough (`scanAll_isSome`). When no cycle
is found every node is accessible: every chain of predecessors ends (`grounded_of_hasCycle`). When
one is found, the path to the node that was met again is one (`exists_cycle_of_hasCycle`).
-/

namespace Nixfleet

/-- The result of a visit. -/
structure Dfs (α : Type*) where
  cycle : Bool
  path : List α
  visited : List α

section Visit

variable {α : Type*} [DecidableEq α]

/-- `adj.${node} or []`: the predecessors of a node, of edges `(gated, gates)`. -/
def predecessorsOf (edges : List (α × α)) (node : α) : List α :=
  (edges.filter fun e => e.1 = node).map Prod.snd

/-- The fold of `walk` over the children of a node. -/
def walk (visitChild : α → List α → Option (Dfs α)) : List α → Dfs α → Option (Dfs α)
  | [], acc => some acc
  | c :: cs, acc =>
      if acc.cycle then walk visitChild cs acc
      else
        match visitChild c acc.visited with
        | none => none
        | some r =>
            if r.cycle then walk visitChild cs r
            else walk visitChild cs ⟨false, acc.path, r.visited ++ [c]⟩

/-- `visit`. -/
def visit (edges : List (α × α)) : Nat → α → List α → List α → Option (Dfs α)
  | 0, _, _, _ => none
  | fuel + 1, node, path, visited =>
      if node ∈ path then some ⟨true, path ++ [node], visited⟩
      else if node ∈ visited then some ⟨false, path, visited⟩
      else
        match walk (fun c seen => visit edges fuel c (path ++ [node]) seen)
            (predecessorsOf edges node) ⟨false, [], visited⟩ with
        | none => none
        | some result =>
            if result.cycle then some result
            else some ⟨false, [], result.visited ++ [node]⟩

/-- `nodes`. -/
def nodesOf (edges : List (α × α)) : List α :=
  (edges.map Prod.fst ++ edges.map Prod.snd).eraseDups

/-- `scan`. -/
def scan (edges : List (α × α)) (fuel : Nat) : List α → Dfs α → Option (Dfs α)
  | [], acc => some acc
  | n :: ns, acc =>
      if acc.cycle then scan edges fuel ns acc
      else
        match visit edges fuel n [] acc.visited with
        | none => none
        | some r => scan edges fuel ns r

/-- The scan of all nodes. -/
def scanAll (edges : List (α × α)) : Option (Dfs α) :=
  scan edges ((nodesOf edges).length + 1) (nodesOf edges) ⟨false, [], []⟩

/-- `hasCycle`. -/
def hasCycle (edges : List (α × α)) : Bool := (scanAll edges).any (·.cycle)

/-- `adj`: the predecessors of every node that has some. -/
def adjacency (edges : List (α × α)) : Table α (List α) :=
  edges.foldl (fun acc e => acc.insert e.1 (((acc.lookup e.1).getD []) ++ [e.2])) ∅

/-- `adj.${node} or []` is what `predecessorsOf` lists. -/
theorem lookup_adjacency (edges : List (α × α)) (node : α) :
    ((adjacency edges).lookup node).getD [] = predecessorsOf edges node := by
  unfold adjacency predecessorsOf
  induction edges using List.reverseRecOn with
  | nil => rfl
  | append_singleton edges e ih =>
      rw [List.foldl_append, List.foldl_cons, List.foldl_nil, Table.lookup_insert_eq,
        List.filter_append, List.map_append, ← ih]
      by_cases hnode : node = e.1
      · subst hnode
        simp
      · have hne : ¬ e.1 = node := fun h => hnode h.symm
        simp [hnode, hne]

theorem mem_predecessorsOf {edges : List (α × α)} {node g : α} :
    g ∈ predecessorsOf edges node ↔ (node, g) ∈ edges := by
  simp [predecessorsOf]

theorem mem_nodesOf {edges : List (α × α)} {n : α} :
    n ∈ nodesOf edges ↔ ∃ e ∈ edges, e.1 = n ∨ e.2 = n := by
  simp only [nodesOf, List.mem_eraseDups, List.mem_append, List.mem_map]
  constructor
  · rintro (⟨e, he, rfl⟩ | ⟨e, he, rfl⟩)
    · exact ⟨e, he, .inl rfl⟩
    · exact ⟨e, he, .inr rfl⟩
  · rintro ⟨e, he, rfl | rfl⟩
    · exact .inl ⟨e, he, rfl⟩
    · exact .inr ⟨e, he, rfl⟩

/-! ## Enough fuel -/

omit [DecidableEq α] in
theorem walk_isSome {visitChild : α → List α → Option (Dfs α)} {cs : List α} {acc : Dfs α}
    (h : ∀ c ∈ cs, ∀ seen, (visitChild c seen).isSome = true) :
    (walk visitChild cs acc).isSome = true := by
  induction cs generalizing acc with
  | nil => rfl
  | cons c cs ih =>
      have ih := fun acc => @ih acc fun c' hc' => h c' (List.mem_cons_of_mem _ hc')
      obtain ⟨r, hr⟩ := Option.isSome_iff_exists.mp (h c List.mem_cons_self acc.visited)
      rw [walk]
      by_cases hcycle : acc.cycle = true
      · rw [if_pos hcycle]
        exact ih _
      · rw [if_neg hcycle, hr]
        dsimp only
        by_cases hr' : r.cycle = true
        · rw [if_pos hr']
          exact ih _
        · rw [if_neg hr']
          exact ih _

/-- A path without repetition fits into the nodes, so the fuel outlasts it. -/
theorem visit_isSome {edges : List (α × α)} {nodes : List α} (hnodes : ∀ e ∈ edges, e.2 ∈ nodes)
    {fuel : Nat} {node : α} {path visited : List α} (hnode : node ∈ nodes)
    (hnodup : path.Nodup) (hsub : path ⊆ nodes) (hfuel : nodes.length < fuel + path.length) :
    (visit edges fuel node path visited).isSome = true := by
  induction fuel generalizing node path visited with
  | zero =>
      have hle := (List.Nodup.subperm hnodup hsub).length_le
      omega
  | succ fuel ih =>
      rw [visit]
      by_cases hpath : node ∈ path
      · rw [if_pos hpath]
        rfl
      · rw [if_neg hpath]
        by_cases hvisited : node ∈ visited
        · rw [if_pos hvisited]
          rfl
        · rw [if_neg hvisited]
          have hlen : (path ++ [node]).length = path.length + 1 := by simp
          have hwalk : (walk (fun c seen => visit edges fuel c (path ++ [node]) seen)
              (predecessorsOf edges node) ⟨false, [], visited⟩).isSome = true := by
            apply walk_isSome
            intro c hc seen
            apply ih
            -- the longer path is still one of nodes, without repetition
            · exact hnodes _ (mem_predecessorsOf.mp hc)
            · exact List.nodup_append.mpr
                ⟨hnodup, List.nodup_singleton _, fun a ha b hb h => hpath (by
                  rw [← List.mem_singleton.mp hb, ← h]
                  exact ha)⟩
            · intro a ha
              rcases List.mem_append.mp ha with ha | ha
              · exact hsub ha
              · exact List.mem_singleton.mp ha ▸ hnode
            · omega
          obtain ⟨result, hresult⟩ := Option.isSome_iff_exists.mp hwalk
          rw [hresult]
          dsimp only
          split <;> rfl

theorem scan_isSome {edges : List (α × α)} {fuel : Nat} {ns : List α} {acc : Dfs α}
    (h : ∀ n ∈ ns, ∀ seen, (visit edges fuel n [] seen).isSome = true) :
    (scan edges fuel ns acc).isSome = true := by
  induction ns generalizing acc with
  | nil => rfl
  | cons n ns ih =>
      have ih := fun acc => @ih acc fun n' hn' => h n' (List.mem_cons_of_mem _ hn')
      obtain ⟨r, hr⟩ := Option.isSome_iff_exists.mp (h n List.mem_cons_self acc.visited)
      rw [scan]
      by_cases hcycle : acc.cycle = true
      · rw [if_pos hcycle]
        exact ih _
      · rw [if_neg hcycle, hr]
        exact ih _

/-- **The cycle check ends.** -/
theorem scanAll_isSome (edges : List (α × α)) : (scanAll edges).isSome = true := by
  apply scan_isSome
  intro n hn seen
  refine visit_isSome (fun e he => mem_nodesOf.mpr ⟨e, he, .inr rfl⟩) hn List.nodup_nil
    (List.nil_subset _) ?_
  simp

/-! ## Without a cycle every chain ends -/

/-- Every chain of predecessors from the node ends. -/
def Grounded (edges : List (α × α)) (node : α) : Prop :=
  Acc (fun g n => (n, g) ∈ edges) node

section Sound

variable {edges : List (α × α)}

omit [DecidableEq α] in
/-- A cycle once found stays found. -/
theorem walk_cycle {visitChild : α → List α → Option (Dfs α)} {cs : List α} {acc r : Dfs α}
    (h : walk visitChild cs acc = some r) (hcycle : acc.cycle = true) : r.cycle = true := by
  induction cs generalizing acc with
  | nil =>
      cases h
      exact hcycle
  | cons c cs ih =>
      rw [walk, if_pos hcycle] at h
      exact ih h hcycle

omit [DecidableEq α] in
/-- A walk that ends without a cycle has met none before. -/
theorem walk_acyclic {visitChild : α → List α → Option (Dfs α)} {cs : List α} {acc r : Dfs α}
    (h : walk visitChild cs acc = some r) (hr : r.cycle = false) : acc.cycle = false := by
  by_contra hcycle
  rw [walk_cycle h (by simpa using hcycle)] at hr
  cases hr

omit [DecidableEq α] in
theorem walk_grounded {visitChild : α → List α → Option (Dfs α)}
    (hvisit : ∀ c seen r, (∀ v ∈ seen, Grounded edges v) → visitChild c seen = some r →
      r.cycle = false → Grounded edges c ∧ ∀ v ∈ r.visited, Grounded edges v)
    {cs : List α} {acc r : Dfs α} (h : walk visitChild cs acc = some r) (hr : r.cycle = false)
    (hacc : ∀ v ∈ acc.visited, Grounded edges v) :
    (∀ c ∈ cs, Grounded edges c) ∧ ∀ v ∈ r.visited, Grounded edges v := by
  induction cs generalizing acc with
  | nil =>
      cases h
      exact ⟨by simp, hacc⟩
  | cons c cs ih =>
      have hopen : acc.cycle = false := walk_acyclic h hr
      rw [walk, if_neg (by simp [hopen])] at h
      cases hchild : visitChild c acc.visited with
      | none => simp [hchild] at h
      | some rc =>
          rw [hchild] at h
          dsimp only at h
          by_cases hrc : rc.cycle = true
          · -- a cycle below the child would have been reported
            rw [if_pos hrc] at h
            rw [walk_cycle h hrc] at hr
            cases hr
          · rw [if_neg hrc] at h
            obtain ⟨hc, hvisited⟩ := hvisit c _ rc hacc hchild (by simpa using hrc)
            obtain ⟨hcs, hfinal⟩ := ih h (by
              intro v hv
              rcases List.mem_append.mp hv with hv | hv
              · exact hvisited v hv
              · exact List.mem_singleton.mp hv ▸ hc)
            refine ⟨?_, hfinal⟩
            intro c' hc'
            rcases List.mem_cons.mp hc' with rfl | hc'
            · exact hc
            · exact hcs c' hc'

/-- A visit that finds no cycle grounds the node and all it visits. -/
theorem visit_grounded {fuel : Nat} {node : α} {path visited : List α} {r : Dfs α}
    (h : visit edges fuel node path visited = some r) (hr : r.cycle = false)
    (hvisited : ∀ v ∈ visited, Grounded edges v) :
    Grounded edges node ∧ ∀ v ∈ r.visited, Grounded edges v := by
  induction fuel generalizing node path visited r with
  | zero => cases h
  | succ fuel ih =>
      rw [visit] at h
      by_cases hpath : node ∈ path
      · rw [if_pos hpath] at h
        cases h
        cases hr
      · rw [if_neg hpath] at h
        by_cases hseen : node ∈ visited
        · rw [if_pos hseen] at h
          cases h
          exact ⟨hvisited node hseen, hvisited⟩
        · rw [if_neg hseen] at h
          cases hwalk : walk (fun c seen => visit edges fuel c (path ++ [node]) seen)
              (predecessorsOf edges node) ⟨false, [], visited⟩ with
          | none => simp [hwalk] at h
          | some result =>
              rw [hwalk] at h
              dsimp only at h
              by_cases hcycle : result.cycle = true
              · rw [if_pos hcycle] at h
                cases h
                simp [hcycle] at hr
              · rw [if_neg hcycle] at h
                cases h
                obtain ⟨hchildren, hrest⟩ := walk_grounded
                  (fun c seen rc hseen' hc hrc => ih hc hrc hseen') hwalk
                  (by simpa using hcycle) hvisited
                -- all predecessors are grounded, so the node is
                have hnode : Grounded edges node := by
                  constructor
                  intro g hg
                  exact hchildren g (mem_predecessorsOf.mpr hg)
                refine ⟨hnode, ?_⟩
                intro v hv
                rcases List.mem_append.mp hv with hv | hv
                · exact hrest v hv
                · exact List.mem_singleton.mp hv ▸ hnode

theorem scan_cycle {fuel : Nat} {ns : List α} {acc r : Dfs α}
    (h : scan edges fuel ns acc = some r) (hcycle : acc.cycle = true) : r.cycle = true := by
  induction ns generalizing acc with
  | nil =>
      cases h
      exact hcycle
  | cons n ns ih =>
      rw [scan, if_pos hcycle] at h
      exact ih h hcycle

theorem scan_acyclic {fuel : Nat} {ns : List α} {acc r : Dfs α}
    (h : scan edges fuel ns acc = some r) (hr : r.cycle = false) : acc.cycle = false := by
  by_contra hcycle
  rw [scan_cycle h (by simpa using hcycle)] at hr
  cases hr

theorem scan_grounded {fuel : Nat} {ns : List α} {acc r : Dfs α}
    (h : scan edges fuel ns acc = some r) (hr : r.cycle = false)
    (hacc : ∀ v ∈ acc.visited, Grounded edges v) : ∀ n ∈ ns, Grounded edges n := by
  induction ns generalizing acc with
  | nil => simp
  | cons n ns ih =>
      have hopen : acc.cycle = false := scan_acyclic h hr
      rw [scan, if_neg (by simp [hopen])] at h
      cases hvisit : visit edges fuel n [] acc.visited with
      | none => simp [hvisit] at h
      | some rn =>
          rw [hvisit] at h
          dsimp only at h
          have hrn : rn.cycle = false := scan_acyclic h hr
          obtain ⟨hn, hvisited⟩ := visit_grounded hvisit hrn hacc
          intro n' hn'
          rcases List.mem_cons.mp hn' with rfl | hn'
          · exact hn
          · exact ih h hvisited n' hn'

/-- **Without a cycle every chain of predecessors ends.** -/
theorem grounded_of_hasCycle (h : hasCycle edges = false) (node : α) : Grounded edges node := by
  obtain ⟨r, hr⟩ := Option.isSome_iff_exists.mp (scanAll_isSome edges)
  have hcycle : r.cycle = false := by
    simpa [hasCycle, hr] using h
  by_cases hnode : node ∈ nodesOf edges
  · exact scan_grounded hr hcycle (by simp) node hnode
  · -- a node of no edge has no predecessor
    constructor
    intro g hg
    exact absurd (mem_nodesOf.mpr ⟨_, hg, .inl rfl⟩) hnode

/-! ## A cycle that is found is one -/

/-- Over one or more edges the node waits for the other. -/
def WaitsFor (edges : List (α × α)) : α → α → Prop :=
  Relation.TransGen fun n g => (n, g) ∈ edges

omit [DecidableEq α] in
/-- Where a walk finds a cycle, a visit of it has found one. -/
theorem walk_found {visitChild : α → List α → Option (Dfs α)} {cs : List α} {acc r : Dfs α}
    (h : walk visitChild cs acc = some r) (hr : r.cycle = true) (hacc : acc.cycle = false) :
    ∃ c ∈ cs, ∃ seen rc, visitChild c seen = some rc ∧ rc.cycle = true := by
  induction cs generalizing acc with
  | nil =>
      cases h
      rw [hacc] at hr
      cases hr
  | cons c cs ih =>
      rw [walk, if_neg (by simp [hacc])] at h
      cases hchild : visitChild c acc.visited with
      | none => simp [hchild] at h
      | some rc =>
          rw [hchild] at h
          dsimp only at h
          by_cases hrc : rc.cycle = true
          · exact ⟨c, List.mem_cons_self, acc.visited, rc, hchild, hrc⟩
          · rw [if_neg hrc] at h
            obtain ⟨c', hc', hfound⟩ := ih h rfl
            exact ⟨c', List.mem_cons_of_mem _ hc', hfound⟩

/-- A visit whose path waits for the node finds nodes that wait for themselves only. -/
theorem visit_found {fuel : Nat} {node : α} {path visited : List α} {r : Dfs α}
    (h : visit edges fuel node path visited = some r) (hr : r.cycle = true)
    (hpath : ∀ v ∈ path, WaitsFor edges v node) : ∃ n, WaitsFor edges n n := by
  induction fuel generalizing node path visited r with
  | zero => cases h
  | succ fuel ih =>
      rw [visit] at h
      by_cases hmet : node ∈ path
      · exact ⟨node, hpath node hmet⟩
      · rw [if_neg hmet] at h
        by_cases hseen : node ∈ visited
        · rw [if_pos hseen] at h
          cases h
          cases hr
        · rw [if_neg hseen] at h
          cases hwalk : walk (fun c seen => visit edges fuel c (path ++ [node]) seen)
              (predecessorsOf edges node) ⟨false, [], visited⟩ with
          | none => simp [hwalk] at h
          | some result =>
              rw [hwalk] at h
              dsimp only at h
              by_cases hcycle : result.cycle = true
              · obtain ⟨c, hc, seen, rc, hvisit, hrc⟩ := walk_found hwalk hcycle rfl
                have hedge : (node, c) ∈ edges := mem_predecessorsOf.mp hc
                -- the longer path waits for the child, over the edge to it
                refine ih hvisit hrc ?_
                intro v hv
                rcases List.mem_append.mp hv with hv | hv
                · exact Relation.TransGen.tail (hpath v hv) hedge
                · rw [List.mem_singleton.mp hv]
                  exact Relation.TransGen.single hedge
              · rw [if_neg hcycle] at h
                cases h
                cases hr

theorem scan_found {fuel : Nat} {ns : List α} {acc r : Dfs α}
    (h : scan edges fuel ns acc = some r) (hr : r.cycle = true) (hacc : acc.cycle = false) :
    ∃ n, WaitsFor edges n n := by
  induction ns generalizing acc with
  | nil =>
      cases h
      rw [hacc] at hr
      cases hr
  | cons n ns ih =>
      rw [scan, if_neg (by simp [hacc])] at h
      cases hvisit : visit edges fuel n [] acc.visited with
      | none => simp [hvisit] at h
      | some rn =>
          rw [hvisit] at h
          dsimp only at h
          by_cases hrn : rn.cycle = true
          · exact visit_found hvisit hrn (by simp)
          · exact ih h (by simpa using hrn)

/-- **A cycle that is found is one.** -/
theorem exists_cycle_of_hasCycle (h : hasCycle edges = true) : ∃ n, WaitsFor edges n n := by
  obtain ⟨r, hr⟩ := Option.isSome_iff_exists.mp (scanAll_isSome edges)
  have hcycle : r.cycle = true := by
    simpa [hasCycle, hr] using h
  exact scan_found hr hcycle rfl

omit [DecidableEq α] in
/-- A node whose chains all end does not wait for itself. -/
theorem Grounded.not_waitsFor {node : α} (h : Grounded edges node) : ¬ WaitsFor edges node node := by
  intro hcycle
  have hback : Relation.TransGen (fun g n => (n, g) ∈ edges) node node :=
    Relation.transGen_swap.mpr hcycle
  have hacc : Acc (Relation.TransGen fun g n => (n, g) ∈ edges) node := h.transGen
  induction hacc with
  | intro node _ ih => exact ih node hback h hcycle hback

/-! ## The verdict -/

omit [DecidableEq α] in
/-- A walk keeps its result when its visits keep theirs. -/
theorem walk_congr {visitChild visitChild' : α → List α → Option (Dfs α)}
    (hvisit : ∀ c seen rc, visitChild c seen = some rc → visitChild' c seen = some rc)
    {cs : List α} {acc r : Dfs α} (h : walk visitChild cs acc = some r) :
    walk visitChild' cs acc = some r := by
  induction cs generalizing acc with
  | nil => exact h
  | cons c cs ih =>
      rw [walk] at h ⊢
      split at h
      · rename_i hcycle
        rw [if_pos hcycle]
        exact ih h
      · rename_i hcycle
        rw [if_neg hcycle]
        cases hchild : visitChild c acc.visited with
        | none => simp [hchild] at h
        | some rc =>
            rw [hchild] at h
            rw [hvisit c _ rc hchild]
            dsimp only at h ⊢
            split at h
            · rename_i hrc
              rw [if_pos hrc]
              exact ih h
            · rename_i hrc
              rw [if_neg hrc]
              exact ih h

/-- More fuel changes no result. -/
theorem visit_fuel {fuel fuel' : Nat} (hle : fuel ≤ fuel') {node : α} {path visited : List α}
    {r : Dfs α} (h : visit edges fuel node path visited = some r) :
    visit edges fuel' node path visited = some r := by
  induction fuel generalizing fuel' node path visited r with
  | zero => cases h
  | succ fuel ih =>
      obtain ⟨more, rfl⟩ : ∃ more, fuel' = more + 1 := ⟨fuel' - 1, by omega⟩
      rw [visit] at h ⊢
      split at h
      · rename_i hmet
        rw [if_pos hmet]
        exact h
      · rename_i hmet
        rw [if_neg hmet]
        split at h
        · rename_i hseen
          rw [if_pos hseen]
          exact h
        · rename_i hseen
          rw [if_neg hseen]
          cases hwalk : walk (fun c seen => visit edges fuel c (path ++ [node]) seen)
              (predecessorsOf edges node) ⟨false, [], visited⟩ with
          | none => simp [hwalk] at h
          | some result =>
              rw [hwalk] at h
              rw [walk_congr (fun c seen rc hrc => ih (Nat.le_of_succ_le_succ hle) hrc) hwalk]
              exact h

theorem scan_fuel {fuel fuel' : Nat} (hle : fuel ≤ fuel') {ns : List α} {acc r : Dfs α}
    (h : scan edges fuel ns acc = some r) : scan edges fuel' ns acc = some r := by
  induction ns generalizing acc with
  | nil => exact h
  | cons n ns ih =>
      rw [scan] at h ⊢
      split at h
      · rename_i hcycle
        rw [if_pos hcycle]
        exact ih h
      · rename_i hcycle
        rw [if_neg hcycle]
        cases hvisit : visit edges fuel n [] acc.visited with
        | none => simp [hvisit] at h
        | some rn =>
            rw [hvisit] at h
            rw [visit_fuel hle hvisit]
            exact ih h

/-- **The cycle check.** It ends, with one result for all fuel beyond the number of nodes, and it
reports a cycle iff some node waits for itself. -/
theorem hasCycle_correct (edges : List (α × α)) :
    (∃ r, hasCycle edges = r.cycle ∧ ∀ fuel, (nodesOf edges).length < fuel →
      scan edges fuel (nodesOf edges) ⟨false, [], []⟩ = some r) ∧
    (hasCycle edges = true ↔ ∃ n, WaitsFor edges n n) := by
  constructor
  · obtain ⟨r, hr⟩ := Option.isSome_iff_exists.mp (scanAll_isSome edges)
    exact ⟨r, by simp [hasCycle, hr], fun fuel hfuel => scan_fuel hfuel hr⟩
  · constructor
    · exact exists_cycle_of_hasCycle
    · rintro ⟨n, hn⟩
      by_contra hnone
      exact (grounded_of_hasCycle (by simpa using hnone) n).not_waitsFor hn

end Sound

end Visit

end Nixfleet
