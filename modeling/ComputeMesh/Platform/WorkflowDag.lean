import ComputeMesh.Lib.Dict
import ComputeMesh.Lib.Checks
import ComputeMesh.Lib.Digraph
import ComputeMesh.Lib.Text

/-!
# Workflow definitions

A workflow is a list of nodes with dependencies; `validate_dag` of `services/mcp/platform/workflow.py` accepts it when
every node is valid, no id repeats, every dependency is a node and a depth-first search meets no cycle.

* `visit` — the search; the ids that are being visited are those on the stack, and the visited ones come out newest
  first;
* `topological_visit` — **what the search returns is in order**: every id comes after its dependencies;
* `validateDag_ne_recursionError` — the search goes no deeper than there are nodes;
* `ValidDag`, `validDag_of_validateDag` — what an accepted definition has.

The search is bounded by the number of nodes and not by the interpreter's recursion limit, which rejects more.
-/

namespace ComputeMesh.Platform

open List

structure WorkflowNode where
  nodeId : String
  dependencies : List String := []
  maxAttempts : ℤ := 1
  deriving DecidableEq, Repr

/-- `WorkflowNode.validate`. -/
def WorkflowNode.validate (node : WorkflowNode) : List String :=
  (if Text.strip node.nodeId = "" then ["node_id is required"] else []) ++
    (if node.nodeId ∈ node.dependencies then ["node cannot depend on itself"] else []) ++
      (if node.maxAttempts < 1 ∨ node.maxAttempts > 20 then ["max_attempts must be between 1 and 20"] else [])

inductive WorkflowError
  | workflowDefinitionError (message : String)
  | recursionError
  deriving DecidableEq, Repr

namespace Workflow

/-- The ids in the order of their code points. -/
def sortedIds (ids : List String) : List String := ids.insertionSort (· ≤ ·)

/-- The first loop: every node is valid and none repeats an id. -/
def nodeMap : List WorkflowNode → Dict String WorkflowNode → Except WorkflowError (Dict String WorkflowNode)
  | [], m => .ok m
  | node :: nodes, m =>
    if node.validate ≠ [] then
      .error (.workflowDefinitionError
        (Text.textOr node.nodeId "<empty>" ++ ": " ++ String.intercalate "; " node.validate))
    else if m.contains node.nodeId then .error (.workflowDefinitionError ("duplicate node_id: " ++ node.nodeId))
    else nodeMap nodes (m.set node.nodeId node)

/-- The second loop: every dependency is a node. -/
def checkDependencies (m : Dict String WorkflowNode) : List WorkflowNode → Except WorkflowError Unit
  | [] => .ok ()
  | node :: nodes =>
    let missing := sortedIds (node.dependencies.eraseDups.filter fun d => !m.contains d)
    if missing ≠ [] then
      .error (.workflowDefinitionError
        ("node " ++ node.nodeId ++ " has missing dependencies: " ++ String.intercalate ", " missing))
    else checkDependencies m nodes

/-- `node_map[node_id].dependencies`. -/
def dependenciesIn (m : Dict String WorkflowNode) (nodeId : String) : List String :=
  ((m.get? nodeId).map WorkflowNode.dependencies).getD []

/-- `visit`, to a depth: the ids visited before come in, those visited after go out. -/
def visit (deps : String → List String) : ℕ → List String → String → List String → Except WorkflowError (List String)
  | 0, _, _, _ => .error .recursionError
  | depth + 1, stack, nodeId, visited =>
    if nodeId ∈ visited then .ok visited
    else if nodeId ∈ stack then
      let cycle := stack.drop (stack.idxOf nodeId) ++ [nodeId]
      .error (.workflowDefinitionError ("dependency cycle: " ++ String.intercalate " -> " cycle))
    else
      (deps nodeId).foldlM (fun seen d => visit deps depth (stack ++ [nodeId]) d seen) visited >>= fun seen =>
        .ok (nodeId :: seen)

def validateDag (nodes : List WorkflowNode) : Except WorkflowError Unit :=
  if nodes = [] then .error (.workflowDefinitionError "workflow requires at least one node")
  else
    nodeMap nodes Dict.empty >>= fun m =>
      checkDependencies m nodes >>= fun _ =>
        (sortedIds (m.entries.map Prod.fst)).foldlM
            (fun seen nodeId => visit (dependenciesIn m) (nodes.length + 1) [] nodeId seen) [] >>= fun _ =>
          .ok ()

/-! ### The search -/

section Search

variable {deps : String → List String} {depth : ℕ} {stack visited seen : List String} {nodeId : String}

/-- What a search of one or more ids returns: the ids visited before and in front of them new ones in order, none of
which is on the stack. -/
structure Extends (deps : String → List String) (stack visited seen : List String) : Prop where
  subset : visited ⊆ seen
  ordered : Digraph.Topological deps visited → Digraph.Topological deps seen
  offStack : ∀ x ∈ stack, x ∈ seen → x ∈ visited

theorem Extends.refl (stack visited : List String) : Extends deps stack visited visited :=
  ⟨List.Subset.refl _, fun h => h, fun _ _ h => h⟩

theorem Extends.trans {later : List String} (h : Extends deps stack visited seen) (h' : Extends deps stack seen later) :
    Extends deps stack visited later :=
  ⟨List.Subset.trans h.subset h'.subset, fun ho => h'.ordered (h.ordered ho),
    fun x hx hlater => h.offStack x hx (h'.offStack x hx hlater)⟩

variable {ids : List String}

theorem extends_foldlM {search : List String → String → Except WorkflowError (List String)}
    (hsearch : ∀ v s x, search v x = .ok s → Extends deps stack v s ∧ x ∈ s)
    (h : ids.foldlM search visited = .ok seen) : Extends deps stack visited seen ∧ ∀ x ∈ ids, x ∈ seen := by
  induction ids generalizing visited with
  | nil =>
    obtain rfl := Except.ok.inj h
    exact ⟨.refl _ _, nofun⟩
  | cons y ids ih =>
    rw [foldlM_cons] at h
    obtain ⟨middle, hfirst, hrest⟩ := bind_eq_ok_iff.mp h
    obtain ⟨hmiddle, hy⟩ := hsearch visited middle y hfirst
    obtain ⟨hseen, hids⟩ := ih hrest
    refine ⟨hmiddle.trans hseen, fun x hx => ?_⟩
    rcases mem_cons.mp hx with rfl | hmem
    · exact hseen.subset hy
    · exact hids x hmem

/-- **What the search returns is in order.** -/
theorem topological_visit (h : visit deps depth stack nodeId visited = .ok seen) :
    Extends deps stack visited seen ∧ nodeId ∈ seen := by
  induction depth generalizing stack nodeId visited seen with
  | zero => cases h
  | succ depth ih =>
    rw [visit] at h
    split at h
    · rename_i hvisited
      obtain rfl := Except.ok.inj h
      exact ⟨.refl _ _, hvisited⟩
    · rename_i hnew
      obtain ⟨hoff, h⟩ := ite_error_eq_ok_iff.mp h
      obtain ⟨inner, hloop, h⟩ := bind_eq_ok_iff.mp h
      obtain rfl := Except.ok.inj h
      obtain ⟨hinner, hdeps⟩ := extends_foldlM (fun v s d hd => ih hd) hloop
      -- the id itself is on the inner stack, so that no inner search has visited it
      have hself : nodeId ∉ inner := fun hmem =>
        hnew (hinner.offStack nodeId (mem_append_right _ (mem_singleton_self _)) hmem)
      refine ⟨⟨fun x hx => mem_cons_of_mem _ (hinner.subset hx), fun ho => ⟨hself, hdeps, hinner.ordered ho⟩,
        fun x hx hseen => ?_⟩, mem_cons_self⟩
      rcases mem_cons.mp hseen with rfl | hmem
      · exact absurd hx hoff
      · exact hinner.offStack x (mem_append_left _ hx) hmem

theorem foldlM_ne_error {search : List String → String → Except WorkflowError (List String)} {e : WorkflowError}
    (hsearch : ∀ v, ∀ x ∈ ids, search v x ≠ .error e) : ids.foldlM search visited ≠ .error e := by
  induction ids generalizing visited with
  | nil => exact nofun
  | cons y ids ih =>
    rw [foldlM_cons]
    cases hfirst : search visited y with
    | error e' =>
      rw [error_bind]
      exact fun h => hsearch visited y mem_cons_self (hfirst.trans h)
    | ok middle =>
      rw [ok_bind]
      exact ih fun v x hx => hsearch v x (mem_cons_of_mem _ hx)

/-- **The search goes no deeper than there are nodes.** -/
theorem visit_ne_recursionError (hclosed : ∀ x ∈ ids, ∀ d ∈ deps x, d ∈ ids) (hid : nodeId ∈ ids)
    (hnodup : stack.Nodup) (hstack : stack ⊆ ids) (hdepth : ids.length < depth + stack.length) :
    visit deps depth stack nodeId visited ≠ .error .recursionError := by
  induction depth generalizing stack nodeId visited with
  | zero =>
    have hle := (subperm_of_subset hnodup hstack).length_le
    omega
  | succ depth ih =>
    rw [visit]
    split
    · exact nofun
    · split
      · exact nofun
      · rename_i hoff
        have hloop : (deps nodeId).foldlM (fun seen d => visit deps depth (stack ++ [nodeId]) d seen) visited
            ≠ .error .recursionError := by
          refine foldlM_ne_error fun v d hd => ih (hclosed nodeId hid d hd) ?_ ?_ ?_
          · rw [← concat_eq_append]
            exact List.Nodup.concat hoff hnodup
          · intro x hx
            rcases mem_append.mp hx with hin | hlast
            · exact hstack hin
            · rwa [mem_singleton.mp hlast]
          · rw [length_append, length_singleton]
            omega
        cases hresult : (deps nodeId).foldlM (fun seen d => visit deps depth (stack ++ [nodeId]) d seen) visited with
        | error e =>
          rw [error_bind]
          exact fun h => hloop (hresult.trans h)
        | ok inner => exact nofun

end Search

/-! ### Accepted definitions -/

def findNode (nodes : List WorkflowNode) (nodeId : String) : Option WorkflowNode :=
  nodes.find? fun node => decide (node.nodeId = nodeId)

def dependenciesOf (nodes : List WorkflowNode) (nodeId : String) : List String :=
  ((findNode nodes nodeId).map WorkflowNode.dependencies).getD []

/-- What an accepted definition has. -/
structure ValidDag (nodes : List WorkflowNode) : Prop where
  attempts : ∀ node ∈ nodes, 1 ≤ node.maxAttempts ∧ node.maxAttempts ≤ 20
  unique : (nodes.map WorkflowNode.nodeId).Nodup
  known : ∀ node ∈ nodes, ∀ d ∈ node.dependencies, ∃ dep ∈ nodes, dep.nodeId = d
  ordered : ∃ order, Digraph.Topological (dependenciesOf nodes) order ∧ order.length ≤ nodes.length ∧
    ∀ node ∈ nodes, node.nodeId ∈ order

variable {nodes : List WorkflowNode} {m m' : Dict String WorkflowNode} {node : WorkflowNode}

theorem findNode_of_mem (hunique : (nodes.map WorkflowNode.nodeId).Nodup) (h : node ∈ nodes) :
    findNode nodes node.nodeId = some node := by
  induction nodes with
  | nil => cases h
  | cons first nodes ih =>
    rw [map_cons, nodup_cons] at hunique
    rcases mem_cons.mp h with rfl | hmem
    · exact find?_cons_of_pos (decide_eq_true rfl)
    · have hne : first.nodeId ≠ node.nodeId := fun heq => hunique.1 (mem_map.mpr ⟨node, hmem, heq.symm⟩)
      exact (find?_cons_of_neg (by simp [hne])).trans (ih hunique.2 hmem)

theorem mem_of_findNode {nodeId : String} (h : findNode nodes nodeId = some node) :
    node ∈ nodes ∧ node.nodeId = nodeId :=
  ⟨mem_of_find?_eq_some h, by simpa using find?_some h⟩

theorem dependenciesOf_of_mem (hunique : (nodes.map WorkflowNode.nodeId).Nodup) (h : node ∈ nodes) :
    dependenciesOf nodes node.nodeId = node.dependencies := by
  rw [dependenciesOf, findNode_of_mem hunique h]
  rfl

theorem nodeMap_eq_ok (h : nodeMap nodes m = .ok m') :
    (∀ node ∈ nodes, node.validate = [] ∧ m.contains node.nodeId = false) ∧
      (nodes.map WorkflowNode.nodeId).Nodup ∧
        ∀ nodeId, m'.get? nodeId = (findNode nodes nodeId).or (m.get? nodeId) := by
  induction nodes generalizing m with
  | nil =>
    obtain rfl := Except.ok.inj h
    exact ⟨nofun, nodup_nil, fun _ => rfl⟩
  | cons first nodes ih =>
    obtain ⟨hvalid, h⟩ := ite_error_eq_ok_iff.mp h
    obtain ⟨hfresh, h⟩ := ite_error_eq_ok_iff.mp h
    obtain ⟨hrest, hunique, hget⟩ := ih h
    have hdistinct : first.nodeId ∉ nodes.map WorkflowNode.nodeId := by
      intro hmem
      obtain ⟨node, hnode, heq⟩ := mem_map.mp hmem
      have habsent := (hrest node hnode).2
      rw [heq, Dict.contains, Dict.get?_set_self] at habsent
      cases habsent
    refine ⟨fun node hnode => ?_, nodup_cons.mpr ⟨hdistinct, hunique⟩, fun nodeId => ?_⟩
    · rcases mem_cons.mp hnode with rfl | hmem
      · exact ⟨not_not.mp hvalid, Bool.eq_false_iff.mpr hfresh⟩
      · have hne : node.nodeId ≠ first.nodeId := fun heq => hdistinct (mem_map.mpr ⟨node, hmem, heq⟩)
        refine ⟨(hrest node hmem).1, ?_⟩
        rw [← (hrest node hmem).2, Dict.contains, Dict.contains, Dict.get?_set_of_ne _ hne]
    · rw [hget, Dict.get?_set]
      by_cases heq : nodeId = first.nodeId
      · have hnone : findNode nodes nodeId = none := by
          refine find?_eq_none.mpr fun node hnode => ?_
          simpa using fun hsame : node.nodeId = nodeId =>
            hdistinct (mem_map.mpr ⟨node, hnode, hsame.trans heq⟩)
        have hfirst : findNode (first :: nodes) nodeId = some first := find?_cons_of_pos (decide_eq_true heq.symm)
        rw [if_pos heq, hnone, hfirst]
        rfl
      · have hskip : findNode (first :: nodes) nodeId = findNode nodes nodeId :=
          find?_cons_of_neg (by simpa using Ne.symm heq)
        rw [if_neg heq, hskip]

theorem checkDependencies_eq_ok (h : checkDependencies m nodes = .ok ()) :
    ∀ node ∈ nodes, ∀ d ∈ node.dependencies, m.contains d = true := by
  induction nodes with
  | nil => intro node hnode; cases hnode
  | cons first nodes ih =>
    obtain ⟨hmissing, h⟩ := ite_error_eq_ok_iff.mp h
    intro node hnode d hd
    rcases mem_cons.mp hnode with rfl | hmem
    · by_contra habsent
      have hin : d ∈ sortedIds (node.dependencies.eraseDups.filter fun d => !m.contains d) := by
        refine (mem_insertionSort _).mpr (mem_filter.mpr ⟨mem_eraseDups.mpr hd, ?_⟩)
        simpa using habsent
      rw [not_not.mp hmissing] at hin
      cases hin
    · exact ih h node hmem d hd

theorem attempts_of_validate (h : node.validate = []) : 1 ≤ node.maxAttempts ∧ node.maxAttempts ≤ 20 := by
  rw [WorkflowNode.validate, append_eq_nil_iff, append_eq_nil_iff] at h
  obtain ⟨-, h⟩ := h
  split at h
  · cases h
  · omega

theorem nodeMap_ne_recursionError : nodeMap nodes m ≠ .error .recursionError := by
  induction nodes generalizing m with
  | nil => exact nofun
  | cons first nodes ih =>
    rw [nodeMap]
    split
    · exact nofun
    · split
      · exact nofun
      · exact ih

theorem checkDependencies_ne_recursionError : checkDependencies m nodes ≠ .error .recursionError := by
  induction nodes with
  | nil => exact nofun
  | cons first nodes ih =>
    rw [checkDependencies]
    split
    · exact nofun
    · exact ih

/-- **The depth of the search is no reason to reject a definition.** -/
theorem validateDag_ne_recursionError : validateDag nodes ≠ .error .recursionError := by
  unfold validateDag
  split
  · exact nofun
  · cases hmap : nodeMap nodes Dict.empty with
    | error e =>
      rw [error_bind]
      exact fun h => nodeMap_ne_recursionError (hmap.trans (congrArg _ (Except.error.inj h)))
    | ok m =>
      rw [ok_bind]
      cases hcheck : checkDependencies m nodes with
      | error e =>
        rw [error_bind]
        exact fun h => checkDependencies_ne_recursionError (hcheck.trans h)
      | ok u =>
        rw [ok_bind]
        have hget : ∀ nodeId, m.get? nodeId = findNode nodes nodeId := fun nodeId =>
          ((nodeMap_eq_ok hmap).2.2 nodeId).trans Option.or_none
        have hkey : ∀ nodeId, m.contains nodeId = true → nodeId ∈ nodes.map WorkflowNode.nodeId := by
          intro nodeId hcontains
          rw [Dict.contains, hget] at hcontains
          obtain ⟨node, hnode⟩ := Option.isSome_iff_exists.mp hcontains
          obtain ⟨hin, rfl⟩ := mem_of_findNode hnode
          exact mem_map_of_mem hin
        have hclosed : ∀ x ∈ nodes.map WorkflowNode.nodeId, ∀ d ∈ dependenciesIn m x,
            d ∈ nodes.map WorkflowNode.nodeId := by
          intro x hx d hd
          obtain ⟨node, hnode, rfl⟩ := mem_map.mp hx
          rw [dependenciesIn, hget, findNode_of_mem (nodeMap_eq_ok hmap).2.1 hnode] at hd
          exact hkey d (checkDependencies_eq_ok hcheck node hnode d hd)
        have hloop : (sortedIds (m.entries.map Prod.fst)).foldlM
            (fun seen nodeId => visit (dependenciesIn m) (nodes.length + 1) [] nodeId seen) []
              ≠ .error .recursionError := by
          refine foldlM_ne_error fun v x hx => visit_ne_recursionError hclosed ?_ nodup_nil (nil_subset _) ?_
          · obtain ⟨⟨k, node⟩, hmem, rfl⟩ := mem_map.mp ((mem_insertionSort _).mp hx)
            refine hkey k ?_
            rw [Dict.contains, (m.mem_entries_iff k node).mp hmem]
            rfl
          · rw [length_map]
            exact Nat.lt_succ_self _
        cases hresult : (sortedIds (m.entries.map Prod.fst)).foldlM
            (fun seen nodeId => visit (dependenciesIn m) (nodes.length + 1) [] nodeId seen) [] with
        | error e =>
          rw [error_bind]
          exact fun h => hloop (hresult.trans (congrArg _ (Except.error.inj h)))
        | ok order => exact nofun

/-- **What an accepted definition has.** -/
theorem validDag_of_validateDag (h : validateDag nodes = .ok ()) : ValidDag nodes := by
  obtain ⟨-, h⟩ := ite_error_eq_ok_iff.mp h
  obtain ⟨m, hmap, h⟩ := bind_eq_ok_iff.mp h
  obtain ⟨_, hcheck, h⟩ := bind_eq_ok_iff.mp h
  obtain ⟨order, hsearch, -⟩ := bind_eq_ok_iff.mp h
  obtain ⟨hvalid, hunique, hget⟩ := nodeMap_eq_ok hmap
  have hget' : ∀ nodeId, m.get? nodeId = findNode nodes nodeId := fun nodeId =>
    (hget nodeId).trans (Option.or_none)
  have hdeps : dependenciesIn m = dependenciesOf nodes := by
    funext nodeId
    rw [dependenciesIn, dependenciesOf, hget']
  have hknown : ∀ node ∈ nodes, ∀ d ∈ node.dependencies, ∃ dep ∈ nodes, dep.nodeId = d := by
    intro node hnode d hd
    have hcontains := checkDependencies_eq_ok hcheck node hnode d hd
    rw [Dict.contains, hget'] at hcontains
    obtain ⟨dep, hdep⟩ := Option.isSome_iff_exists.mp hcontains
    exact ⟨dep, mem_of_findNode hdep⟩
  obtain ⟨hextends, hall⟩ := extends_foldlM (fun v s x hx => topological_visit hx) hsearch
  have hordered : Digraph.Topological (dependenciesOf nodes) order := hdeps ▸ hextends.ordered trivial
  refine ⟨fun node hnode => attempts_of_validate (hvalid node hnode).1, hunique, hknown,
    order.filter fun nodeId => (findNode nodes nodeId).isSome, hordered.filter fun nodeId hsome d hd => ?_, ?_,
    fun node hnode => ?_⟩
  · obtain ⟨node, hnode⟩ := Option.isSome_iff_exists.mp hsome
    rw [dependenciesOf, hnode] at hd
    obtain ⟨dep, hdep, rfl⟩ := hknown node (mem_of_findNode hnode).1 d hd
    rw [findNode_of_mem hunique hdep]
    rfl
  · have hsub : (order.filter fun nodeId => (findNode nodes nodeId).isSome) ⊆ nodes.map WorkflowNode.nodeId := by
      intro nodeId hmem
      obtain ⟨node, hnode⟩ := Option.isSome_iff_exists.mp (mem_filter.mp hmem).2
      obtain ⟨hin, rfl⟩ := mem_of_findNode hnode
      exact mem_map_of_mem hin
    have hle := (subperm_of_subset (hordered.nodup.filter _) hsub).length_le
    rwa [length_map] at hle
  · have hfind := findNode_of_mem hunique hnode
    refine mem_filter.mpr ⟨hall node.nodeId ?_, by rw [hfind]; rfl⟩
    refine (mem_insertionSort _).mpr (mem_map.mpr ⟨(node.nodeId, node), ?_, rfl⟩)
    exact (m.mem_entries_iff _ _).mpr ((hget' _).trans hfind)

end Workflow

end ComputeMesh.Platform
