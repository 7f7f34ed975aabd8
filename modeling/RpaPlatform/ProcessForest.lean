import Mathlib.Data.List.Sort
import RpaPlatform.Ancestry
import RpaPlatform.Dictionary

namespace RpaPlatform.Dashboard

open Ancestry (climb Ends)

/-!
# The forest of a session's processes

The dashboard hangs every process below its parent, when the parent is another
process of the session, and shows the others as roots.  What is below a root is
all that is ever shown: the processes on a cycle of parents, and those below
them, are below no root.
-/

/-- What the process tree uses of a process. -/
structure ProcessReplica where
  exe : Option String := none
  ppid : Option Int := none
deriving DecidableEq

/-- The processes of a session by pid. -/
structure ProcessMap where
  entries : List (String × ProcessReplica)
  distinct : (entries.map Prod.fst).Nodup

/-- A node of the forest, with what hangs below it. -/
inductive ProcessTreeNode where
  | node
      (pid : String)
      (proc : ProcessReplica)
      (children : List ProcessTreeNode)

namespace ProcessTreeNode

def pid : ProcessTreeNode → String
  | node pid _ _ => pid

def proc : ProcessTreeNode → ProcessReplica
  | node _ proc _ => proc

mutual

def pids : ProcessTreeNode → List String
  | node pid _ children => pid :: forestPids children

def forestPids : List ProcessTreeNode → List String
  | [] => []
  | tree :: rest => pids tree ++ forestPids rest

end

theorem forestPids_eq (trees : List ProcessTreeNode) :
    forestPids trees = trees.flatMap pids := by
  induction trees with
  | nil =>
    rfl
  | cons tree rest inductionHypothesis =>
    simp [forestPids, inductionHypothesis]

end ProcessTreeNode

open ProcessTreeNode (forestPids)

/-! ### Sorting -/

/-- `String.localeCompare`, and `Number` of a pid, which may be `NaN`. -/
structure Collation where
  localeCompare : String → String → Int
  number : String → Option Int

/-- The comparison of two nodes; `NaN` counts as equal. -/
def Collation.compareNodes
    (collation : Collation)
    (left right : ProcessTreeNode) : Int :=
  let exeCompare :=
    collation.localeCompare (left.proc.exe.getD "") (right.proc.exe.getD "")
  if exeCompare ≠ 0 then
    exeCompare
  else
    match collation.number left.pid, collation.number right.pid with
    | some leftPid, some rightPid => leftPid - rightPid
    | _, _ => 0

mutual

/-- Sort what hangs below a node. -/
def sortChildren (collation : Collation) :
    ProcessTreeNode → ProcessTreeNode
  | .node pid proc children =>
    .node pid proc
      ((sortEach collation children).insertionSort fun left right =>
        collation.compareNodes left right ≤ 0)

/-- Sort what hangs below each of some nodes. -/
def sortEach (collation : Collation) :
    List ProcessTreeNode → List ProcessTreeNode
  | [] =>
    []
  | tree :: rest =>
    sortChildren collation tree :: sortEach collation rest

end

def sortNodes
    (collation : Collation)
    (nodes : List ProcessTreeNode) : List ProcessTreeNode :=
  (sortEach collation nodes).insertionSort fun left right =>
    collation.compareNodes left right ≤ 0

mutual

theorem pids_sortChildren
    (collation : Collation)
    (tree : ProcessTreeNode) :
    (sortChildren collation tree).pids.Perm tree.pids := by
  match tree with
  | .node pid proc children =>
    rw [sortChildren, ProcessTreeNode.pids, ProcessTreeNode.pids,
      ProcessTreeNode.forestPids_eq]
    apply List.Perm.cons
    apply ((List.perm_insertionSort _ _).flatMap_right _).trans
    rw [← ProcessTreeNode.forestPids_eq]
    exact forestPids_sortEach collation children

theorem forestPids_sortEach
    (collation : Collation)
    (trees : List ProcessTreeNode) :
    (forestPids (sortEach collation trees)).Perm (forestPids trees) := by
  match trees with
  | [] =>
    simp [sortEach]
  | tree :: rest =>
    simp only [sortEach, forestPids]
    exact
      (pids_sortChildren collation tree).append
        (forestPids_sortEach collation rest)

end

theorem forestPids_sortNodes
    (collation : Collation)
    (trees : List ProcessTreeNode) :
    (forestPids (sortNodes collation trees)).Perm (forestPids trees) := by
  rw [sortNodes, ProcessTreeNode.forestPids_eq]
  apply ((List.perm_insertionSort _ _).flatMap_right _).trans
  rw [← ProcessTreeNode.forestPids_eq]
  exact forestPids_sortEach collation trees

/-! ### Linking the nodes -/

/-- A node while the forest is built; its children are other nodes. -/
structure LinkedNode where
  proc : ProcessReplica
  children : List String := []

/-- The nodes by pid, and the roots there are so far. -/
structure Linking where
  nodes : List (String × LinkedNode)
  roots : List String := []

/-- The node that a node is hung below. -/
def parentPid?
    (keys : List String)
    (pid : String)
    (proc : ProcessReplica) : Option String :=
  (proc.ppid.map toString).filter fun parentPid =>
    parentPid ≠ "" ∧ parentPid ≠ pid ∧ parentPid ∈ keys

/-- `nodes.get(parentPid).children.push(node)`. -/
def pushChild
    (parentPid pid : String)
    (entry : String × LinkedNode) : String × LinkedNode :=
  if entry.1 = parentPid then
    (entry.1, { entry.2 with children := entry.2.children ++ [pid] })
  else
    entry

/-- Hang a node below its parent, or make it a root. -/
def linkNode
    (linking : Linking)
    (entry : String × ProcessReplica) : Linking :=
  match parentPid? (linking.nodes.map Prod.fst) entry.1 entry.2 with
  | some parentPid =>
    { linking with
      nodes := linking.nodes.map (pushChild parentPid entry.1) }
  | none =>
    { linking with roots := linking.roots ++ [entry.1] }

def linkNodes (entries : List (String × ProcessReplica)) : Linking :=
  entries.foldl linkNode
    { nodes := entries.map fun entry => (entry.1, { proc := entry.2 }) }

/-- The tree that hangs below a node. -/
def readTree
    (nodes : List (String × LinkedNode)) :
    Nat → String → Option ProcessTreeNode
  | 0, _ =>
    none
  | fuel + 1, pid =>
    (nodes.lookup pid).bind fun node =>
      (node.children.mapM (readTree nodes fuel)).map (.node pid node.proc)

def buildProcessForest
    (collation : Collation)
    (processes : ProcessMap) : Option (List ProcessTreeNode) :=
  let linking := linkNodes processes.entries
  let fuel := processes.entries.length + 1
  (linking.roots.mapM (readTree linking.nodes fuel)).map (sortNodes collation)

/-! ### What is linked -/

/-- The nodes that are hung below a node. -/
def childrenIn
    (keys : List String)
    (entries : List (String × ProcessReplica))
    (pid : String) : List String :=
  (entries.filter fun entry =>
      parentPid? keys entry.1 entry.2 = some pid).map Prod.fst

/-- The nodes that are roots. -/
def rootsIn
    (keys : List String)
    (entries : List (String × ProcessReplica)) : List String :=
  (entries.filter fun entry =>
      parentPid? keys entry.1 entry.2 = none).map Prod.fst

/-- The links when some of the nodes have been linked. -/
def linkedSoFar
    (entries done : List (String × ProcessReplica)) : Linking where
  nodes :=
    entries.map fun entry =>
      (entry.1,
        { proc := entry.2
          children :=
            childrenIn (entries.map Prod.fst) done entry.1 })
  roots := rootsIn (entries.map Prod.fst) done

theorem linkNode_linkedSoFar
    (entries done : List (String × ProcessReplica))
    (entry : String × ProcessReplica) :
    linkNode (linkedSoFar entries done) entry =
      linkedSoFar entries (done ++ [entry]) := by
  have keys :
      (linkedSoFar entries done).nodes.map Prod.fst = entries.map Prod.fst := by
    simp [linkedSoFar]
  rw [linkNode, keys]
  cases found : parentPid? (entries.map Prod.fst) entry.1 entry.2 with
  | none =>
    simp [linkedSoFar, childrenIn, rootsIn, found]
  | some parentPid =>
    simp only [linkedSoFar, childrenIn, rootsIn, List.filter_append,
      List.map_append, List.map_map, Linking.mk.injEq]
    constructor
    · apply List.map_congr_left
      intro other _
      by_cases isParent : other.1 = parentPid
      · simp [pushChild, isParent, found]
      · simp [pushChild, isParent, found, Ne.symm isParent]
    · simp [found]

theorem linkNodes_eq (entries : List (String × ProcessReplica)) :
    linkNodes entries = linkedSoFar entries entries := by
  have linked (done rest : List (String × ProcessReplica)) :
      rest.foldl linkNode (linkedSoFar entries done) =
        linkedSoFar entries (done ++ rest) := by
    induction rest generalizing done with
    | nil =>
      simp
    | cons entry rest inductionHypothesis =>
      rw [List.foldl_cons, linkNode_linkedSoFar, inductionHypothesis]
      simp
  exact linked [] entries

/-! ### The parents of a session -/

namespace ProcessMap

variable (processes : ProcessMap)

def keys : List String :=
  processes.entries.map Prod.fst

def parentOf (pid : String) : Option String :=
  (processes.entries.lookup pid).bind (parentPid? processes.keys pid)

def childrenOf (pid : String) : List String :=
  childrenIn processes.keys processes.entries pid

variable {processes}

theorem lookup_of_mem
    {entry : String × ProcessReplica}
    (member : entry ∈ processes.entries) :
    processes.entries.lookup entry.1 = some entry.2 :=
  Dictionary.lookup_of_mem processes.distinct member

theorem parentOf_of_mem
    {entry : String × ProcessReplica}
    (member : entry ∈ processes.entries) :
    processes.parentOf entry.1 = parentPid? processes.keys entry.1 entry.2 := by
  rw [parentOf, lookup_of_mem member]
  rfl

theorem mem_keys_of_parentOf
    (pid : String)
    (isChild : (processes.parentOf pid).isSome) :
    pid ∈ processes.keys := by
  rw [parentOf] at isChild
  cases found : processes.entries.lookup pid with
  | none =>
    rw [found] at isChild
    cases isChild
  | some proc =>
    exact List.mem_map_of_mem (Dictionary.mem_of_lookup found)

theorem parent_mem_keys
    {pid parent : String}
    (isParent : processes.parentOf pid = some parent) :
    parent ∈ processes.keys := by
  obtain ⟨proc, _, isParent⟩ := Option.bind_eq_some_iff.mp isParent
  have kept := (Option.filter_eq_some_iff.mp isParent).2
  simp only [decide_eq_true_eq] at kept
  exact kept.2.2

theorem mem_childrenOf
    {pid child : String} :
    child ∈ processes.childrenOf pid ↔ processes.parentOf child = some pid := by
  simp only [childrenOf, childrenIn, List.mem_map, List.mem_filter,
    decide_eq_true_eq]
  constructor
  · rintro ⟨entry, ⟨member, isParent⟩, rfl⟩
    rw [parentOf_of_mem member]
    exact isParent
  · intro isParent
    obtain ⟨proc, found, isParent⟩ := Option.bind_eq_some_iff.mp isParent
    exact ⟨(child, proc), ⟨Dictionary.mem_of_lookup found, isParent⟩, rfl⟩

theorem nodup_childrenOf (pid : String) :
    (processes.childrenOf pid).Nodup :=
  processes.distinct.sublist (List.filter_sublist.map Prod.fst)

theorem mem_roots
    {pid : String} :
    pid ∈ rootsIn processes.keys processes.entries ↔
      pid ∈ processes.keys ∧ processes.parentOf pid = none := by
  rw [rootsIn, List.mem_map]
  constructor
  · rintro ⟨entry, isRoot, rfl⟩
    obtain ⟨member, isRoot⟩ := List.mem_filter.mp isRoot
    rw [parentOf_of_mem member]
    exact ⟨List.mem_map_of_mem member, of_decide_eq_true isRoot⟩
  · rintro ⟨member, isRoot⟩
    obtain ⟨entry, isEntry, rfl⟩ := List.mem_map.mp member
    rw [parentOf_of_mem isEntry] at isRoot
    exact ⟨entry, List.mem_filter.mpr ⟨isEntry, decide_eq_true isRoot⟩, rfl⟩

theorem nodup_roots :
    (rootsIn processes.keys processes.entries).Nodup :=
  processes.distinct.sublist (List.filter_sublist.map Prod.fst)

theorem lookup_linked
    {pid : String}
    (member : pid ∈ processes.keys) :
    ∃ proc,
      (linkNodes processes.entries).nodes.lookup pid =
        some { proc, children := processes.childrenOf pid } := by
  obtain ⟨entry, isEntry, rfl⟩ := List.mem_map.mp member
  refine ⟨entry.2, ?_⟩
  rw [linkNodes_eq]
  apply Dictionary.lookup_of_mem
  · rw [linkedSoFar, List.map_map]
    exact processes.distinct
  · exact List.mem_map_of_mem isEntry

end ProcessMap

/-! ### What is read -/

theorem mapM_reads
    {read : String → Option ProcessTreeNode}
    {listed : String → List String}
    {pids : List String}
    (reads :
      ∀ pid ∈ pids, ∃ tree, read pid = some tree ∧ tree.pids = listed pid) :
    ∃ trees,
      pids.mapM read = some trees ∧ forestPids trees = pids.flatMap listed := by
  induction pids with
  | nil =>
    exact ⟨[], rfl, rfl⟩
  | cons pid rest inductionHypothesis =>
    obtain ⟨tree, isRead, lists⟩ := reads pid List.mem_cons_self
    obtain ⟨trees, areRead, list⟩ :=
      inductionHypothesis fun other member =>
        reads other (List.mem_cons_of_mem _ member)
    exact
      ⟨tree :: trees, by simp [isRead, areRead],
        by simp [forestPids, lists, list]⟩

namespace ProcessMap

variable (processes : ProcessMap)

/-- A process and what is below it, as deep as it may be. -/
def descendants : Nat → String → List String
  | 0, _ =>
    []
  | depth + 1, pid =>
    pid :: (processes.childrenOf pid).flatMap (descendants depth)

variable {processes}

variable {root : String}

theorem readTree_reads
    {fuel : Nat}
    (member : root ∈ processes.keys)
    (within :
      ∀ pid steps,
        climb processes.parentOf steps pid = some root → steps < fuel) :
    ∃ tree,
      readTree (linkNodes processes.entries).nodes fuel root = some tree ∧
        tree.pids = processes.descendants fuel root := by
  induction fuel generalizing root with
  | zero =>
    exact absurd (within root 0 rfl) (Nat.not_lt_zero 0)
  | succ fuel inductionHypothesis =>
    obtain ⟨proc, found⟩ := lookup_linked member
    have children :
        ∀ child ∈ processes.childrenOf root, ∃ tree,
          readTree (linkNodes processes.entries).nodes fuel child =
              some tree ∧
            tree.pids = processes.descendants fuel child := by
      intro child isChild
      have isParent := mem_childrenOf.mp isChild
      apply inductionHypothesis
      · exact mem_keys_of_parentOf child (by simp [isParent])
      · intro pid steps below
        have above := within pid (steps + 1)
        rw [Ancestry.climb_succ, below] at above
        exact Nat.lt_of_succ_lt_succ (above isParent)
    obtain ⟨trees, areRead, list⟩ := mapM_reads children
    exact
      ⟨.node root proc trees, by simp [readTree, found, areRead],
        by simp [ProcessTreeNode.pids, descendants, list]⟩

theorem mem_descendants
    {depth : Nat}
    {root pid : String} :
    pid ∈ processes.descendants depth root ↔
      ∃ steps < depth, climb processes.parentOf steps pid = some root := by
  induction depth generalizing root with
  | zero =>
    simp [descendants]
  | succ depth inductionHypothesis =>
    rw [descendants, List.mem_cons, List.mem_flatMap]
    constructor
    · rintro (rfl | ⟨child, isChild, below⟩)
      · exact ⟨0, Nat.succ_pos depth, rfl⟩
      · obtain ⟨steps, isLess, climbed⟩ := inductionHypothesis.mp below
        refine ⟨steps + 1, Nat.succ_lt_succ isLess, ?_⟩
        rw [Ancestry.climb_succ, climbed]
        exact mem_childrenOf.mp isChild
    · rintro ⟨steps, isLess, climbed⟩
      cases steps with
      | zero =>
        exact .inl (Option.some.inj climbed)
      | succ steps =>
        rw [Ancestry.climb_succ] at climbed
        obtain ⟨child, below, isParent⟩ :=
          Option.bind_eq_some_iff.mp climbed
        exact
          .inr
            ⟨child, mem_childrenOf.mpr isParent,
              inductionHypothesis.mpr
                ⟨steps, Nat.lt_of_succ_lt_succ isLess, below⟩⟩

theorem nodup_descendants
    {depth : Nat}
    (ends : Ends processes.parentOf root) :
    (processes.descendants depth root).Nodup := by
  induction depth generalizing root with
  | zero =>
    exact List.nodup_nil
  | succ depth inductionHypothesis =>
    have throughRoot :
        ∀ child ∈ processes.childrenOf root, ∀ pid,
          pid ∈ processes.descendants depth child →
          ∃ steps,
            climb processes.parentOf steps pid = some child ∧
              climb processes.parentOf (steps + 1) pid = some root := by
      intro child isChild pid below
      obtain ⟨steps, _, climbed⟩ := mem_descendants.mp below
      refine ⟨steps, climbed, ?_⟩
      rw [Ancestry.climb_succ, climbed]
      exact mem_childrenOf.mp isChild
    rw [descendants, List.nodup_cons, List.nodup_flatMap]
    refine ⟨?_, ?_, ?_⟩
    · intro member
      obtain ⟨child, isChild, below⟩ := List.mem_flatMap.mp member
      obtain ⟨steps, _, climbed⟩ := throughRoot child isChild root below
      have same := ends.climb_inj climbed (Ancestry.climb_zero root)
      cases same
    · intro child isChild
      exact
        inductionHypothesis
          (Ancestry.ends_of_climb
            (show climb processes.parentOf 1 child = some root by
              simp [climb, mem_childrenOf.mp isChild])
            ends)
    · refine (nodup_childrenOf root).pairwise_of_forall_ne ?_
      intro first isFirst second isSecond different pid below alsoBelow
      obtain ⟨steps, toFirst, toRoot⟩ :=
        throughRoot first isFirst pid below
      obtain ⟨others, toSecond, alsoToRoot⟩ :=
        throughRoot second isSecond pid alsoBelow
      have same :=
        (Ancestry.ends_of_climb toRoot ends).climb_inj toRoot alsoToRoot
      cases same
      exact different (Option.some.inj (toFirst.symm.trans toSecond))

/-! ### The forest -/

theorem ends_of_noParent
    (noParent : processes.parentOf root = none) :
    Ends processes.parentOf root :=
  ⟨1, by simp [climb, noParent]⟩

theorem steps_lt_of_root
    (noParent : processes.parentOf root = none)
    (pid : String)
    (steps : Nat)
    (climbed : climb processes.parentOf steps pid = some root) :
    steps < processes.entries.length + 1 := by
  have ends :=
    Ancestry.ends_of_climb climbed (ends_of_noParent noParent)
  have bounded := ends.steps_le mem_keys_of_parentOf climbed
  rw [keys, List.length_map] at bounded
  exact Nat.lt_succ_of_le bounded

variable (processes) in
def shown : List String :=
  (rootsIn processes.keys processes.entries).flatMap
    (processes.descendants (processes.entries.length + 1))

theorem buildProcessForest_builds
    (collation : Collation) :
    ∃ roots,
      buildProcessForest collation processes = some roots ∧
        (forestPids roots).Perm processes.shown := by
  have reads :
      ∀ root ∈ rootsIn processes.keys processes.entries, ∃ tree,
        readTree (linkNodes processes.entries).nodes
            (processes.entries.length + 1) root = some tree ∧
          tree.pids =
            processes.descendants (processes.entries.length + 1) root := by
    intro root isRoot
    obtain ⟨member, noParent⟩ := mem_roots.mp isRoot
    exact readTree_reads member (steps_lt_of_root noParent)
  obtain ⟨trees, areRead, list⟩ := mapM_reads reads
  have roots :
      (linkNodes processes.entries).roots =
        rootsIn processes.keys processes.entries := by
    rw [linkNodes_eq]
    rfl
  refine
    ⟨sortNodes collation trees, by simp [buildProcessForest, roots, areRead],
      ?_⟩
  rw [shown, ← list]
  exact forestPids_sortNodes collation trees

theorem mem_shown
    {pid : String} :
    pid ∈ processes.shown ↔
      pid ∈ processes.keys ∧ Ends processes.parentOf pid := by
  rw [shown, List.mem_flatMap]
  constructor
  · rintro ⟨root, isRoot, below⟩
    obtain ⟨member, noParent⟩ := mem_roots.mp isRoot
    obtain ⟨steps, _, climbed⟩ := mem_descendants.mp below
    refine ⟨?_, Ancestry.ends_of_climb climbed (ends_of_noParent noParent)⟩
    cases steps with
    | zero =>
      exact Option.some.inj climbed ▸ member
    | succ steps =>
      apply mem_keys_of_parentOf
      rw [climb] at climbed
      obtain ⟨parent, isParent, _⟩ := Option.bind_eq_some_iff.mp climbed
      simp [isParent]
  · rintro ⟨member, ends⟩
    obtain ⟨steps, root, climbed, noParent⟩ := ends.exists_root
    have isRoot : root ∈ processes.keys := by
      cases steps with
      | zero =>
        exact Option.some.inj climbed ▸ member
      | succ steps =>
        rw [Ancestry.climb_succ] at climbed
        obtain ⟨below, _, isParent⟩ := Option.bind_eq_some_iff.mp climbed
        exact parent_mem_keys isParent
    exact
      ⟨root, mem_roots.mpr ⟨isRoot, noParent⟩,
        mem_descendants.mpr
          ⟨steps, steps_lt_of_root noParent pid steps climbed, climbed⟩⟩

theorem nodup_shown : processes.shown.Nodup := by
  rw [shown, List.nodup_flatMap]
  refine ⟨?_, nodup_roots.pairwise_of_forall_ne ?_⟩
  · intro root isRoot
    exact nodup_descendants (ends_of_noParent (mem_roots.mp isRoot).2)
  · intro first isFirst second isSecond different pid below alsoBelow
    obtain ⟨steps, _, toFirst⟩ := mem_descendants.mp below
    obtain ⟨others, _, toSecond⟩ := mem_descendants.mp alsoBelow
    exact
      different
        (Ancestry.root_unique toFirst toSecond (mem_roots.mp isFirst).2
          (mem_roots.mp isSecond).2)

end ProcessMap

/-- Each process is exactly once among the nodes reachable from the roots. -/
def ForestComplete
    (collation : Collation)
    (processes : ProcessMap) : Prop :=
  ∃ roots,
    buildProcessForest collation processes = some roots ∧
      ∀ pid ∈ processes.keys, (forestPids roots).count pid = 1

/-- The forest is complete when every chain of parents ends. -/
theorem forestComplete_iff
    (collation : Collation)
    (processes : ProcessMap) :
    ForestComplete collation processes ↔
      ∀ pid ∈ processes.keys, Ends processes.parentOf pid := by
  obtain ⟨roots, built, same⟩ :=
    processes.buildProcessForest_builds collation
  constructor
  · rintro ⟨returned, isReturned, complete⟩ pid member
    rw [built, Option.some.injEq] at isReturned
    subst isReturned
    have isShown : pid ∈ processes.shown := by
      rw [← same.mem_iff, ← List.count_pos_iff, complete pid member]
      exact Nat.one_pos
    exact (ProcessMap.mem_shown.mp isShown).2
  · intro ends
    refine ⟨roots, built, fun pid member => ?_⟩
    rw [same.count_eq]
    exact
      List.count_eq_one_of_mem ProcessMap.nodup_shown
        (ProcessMap.mem_shown.mpr ⟨member, ends pid member⟩)

def cyclicProcesses : ProcessMap where
  entries := [("10", { ppid := some 20 }), ("20", { ppid := some 10 })]
  distinct := by decide

/-- Processes on a cycle are shown nowhere. -/
theorem not_forestComplete :
    ¬ ∀ collation processes, ForestComplete collation processes := by
  intro complete
  obtain ⟨roots, built, counted⟩ :=
    complete { localeCompare := fun _ _ => 0, number := String.toInt? }
      cyclicProcesses
  have nothing : (linkNodes cyclicProcesses.entries).roots = [] := by
    decide +kernel
  simp only [buildProcessForest, nothing, List.mapM_nil, Option.pure_def,
    Option.map_some, Option.some.injEq] at built
  subst built
  have once := counted "10" (by decide)
  cases once

end RpaPlatform.Dashboard
