import Mathlib.Data.List.Basic
import Mathlib.Data.List.Nodup
import Mathlib.Data.List.Perm.Subperm
import Mathlib.Data.List.Range

namespace RpaPlatform.Ancestry

/-!
# Chains of parents

A relation that gives every node at most one parent may have cycles, and
parents that have no parent themselves.  The chain of a node ends or comes back
to where it has been.  A search along the chain that remembers where it has
been stops in either case, with the first thing that is on the chain.
-/

universe nodeLevel resultLevel

variable
    {Node : Type nodeLevel}
    (parent : Node → Option Node)

/-- What stands some steps above a node. -/
def climb : Nat → Node → Option Node
  | 0, node =>
    some node
  | steps + 1, node =>
    (parent node).bind (climb steps)

def Ends (node : Node) : Prop :=
  ∃ steps, climb parent steps node = none

variable {parent}

@[simp]
theorem climb_zero (node : Node) :
    climb parent 0 node = some node :=
  rfl

theorem climb_add
    (first second : Nat)
    (node : Node) :
    climb parent (first + second) node =
      (climb parent first node).bind (climb parent second) := by
  induction first generalizing node with
  | zero =>
    simp
  | succ first inductionHypothesis =>
    rw [Nat.succ_add, climb, climb]
    cases parent node with
    | none =>
      rfl
    | some above =>
      exact inductionHypothesis above

theorem climb_succ
    (steps : Nat)
    (node : Node) :
    climb parent (steps + 1) node = (climb parent steps node).bind parent := by
  rw [climb_add]
  apply congrArg
  funext above
  cases found : parent above <;> simp [climb, found]

theorem climb_none_of_le
    {node : Node}
    {steps more : Nat}
    (later : steps ≤ more)
    (ended : climb parent steps node = none) :
    climb parent more node = none := by
  obtain ⟨further, rfl⟩ := Nat.exists_eq_add_of_le later
  rw [climb_add, ended]
  rfl

variable
    {node above : Node}
    {steps : Nat}

theorem exists_climb_of_le
    {steps fewer : Nat}
    (earlier : fewer ≤ steps)
    (found : climb parent steps node = some above) :
    ∃ below, climb parent fewer node = some below := by
  cases under : climb parent fewer node with
  | none =>
    rw [climb_none_of_le earlier under] at found
    cases found
  | some below =>
    exact ⟨below, rfl⟩

theorem ends_of_climb
    (found : climb parent steps node = some above)
    (ends : Ends parent above) : Ends parent node := by
  obtain ⟨more, ended⟩ := ends
  refine ⟨steps + more, ?_⟩
  rw [climb_add, found]
  exact ended

theorem Ends.exists_root
    {node : Node}
    (ends : Ends parent node) :
    ∃ steps root,
      Ancestry.climb parent steps node = some root ∧ parent root = none := by
  obtain ⟨bound, ended⟩ := ends
  induction bound with
  | zero =>
    cases ended
  | succ steps inductionHypothesis =>
    cases below : Ancestry.climb parent steps node with
    | none =>
      exact inductionHypothesis below
    | some root =>
      refine ⟨steps, root, below, ?_⟩
      rw [climb_succ, below] at ended
      exact ended

theorem root_unique
    {node root other : Node}
    {steps others : Nat}
    (isRoot : climb parent steps node = some root)
    (isOther : climb parent others node = some other)
    (noParent : parent root = none)
    (noOther : parent other = none) :
    root = other := by
  have ended : climb parent (steps + 1) node = none := by
    rw [climb_succ, isRoot]
    exact noParent
  have otherEnded : climb parent (others + 1) node = none := by
    rw [climb_succ, isOther]
    exact noOther
  rcases Nat.lt_trichotomy steps others with before | rfl | after
  · rw [climb_none_of_le before ended] at isOther
    cases isOther
  · exact Option.some.inj (isRoot.symm.trans isOther)
  · rw [climb_none_of_le after otherEnded] at isRoot
    cases isRoot

/-! ### Coming back -/

section Return

variable
    {node again : Node}
    {first second : Nat}
    (before : first < second)
    (once : climb parent first node = some again)
    (twice : climb parent second node = some again)

include before once twice

theorem exists_climb_lt_of_return (steps : Nat) :
    ∃ fewer < second, climb parent steps node = climb parent fewer node := by
  induction steps using Nat.strong_induction_on with
  | _ steps inductionHypothesis =>
    by_cases within : steps < second
    · exact ⟨steps, within, rfl⟩
    · obtain ⟨further, rfl⟩ := Nat.exists_eq_add_of_le (not_lt.mp within)
      obtain ⟨fewer, isFewer, same⟩ :=
        inductionHypothesis (first + further)
          (Nat.add_lt_add_right before further)
      refine ⟨fewer, isFewer, ?_⟩
      rw [← same, climb_add, climb_add, once, twice]

theorem not_ends_of_return : ¬ Ends parent node := by
  rintro ⟨steps, ended⟩
  obtain ⟨fewer, isFewer, same⟩ :=
    exists_climb_lt_of_return before once twice steps
  rw [ended] at same
  rw [climb_none_of_le (Nat.le_of_lt isFewer) same.symm] at twice
  cases twice

end Return

theorem Ends.climb_inj
    {node again : Node}
    {first second : Nat}
    (ends : Ends parent node)
    (once : Ancestry.climb parent first node = some again)
    (twice : Ancestry.climb parent second node = some again) :
    first = second := by
  rcases Nat.lt_trichotomy first second with before | same | after
  · exact absurd ends (not_ends_of_return before once twice)
  · exact same
  · exact absurd ends (not_ends_of_return after twice once)

theorem Ends.steps_le
    {nodes : List Node}
    (listed : ∀ node, (parent node).isSome → node ∈ nodes)
    (ends : Ends parent node)
    (found : Ancestry.climb parent steps node = some above) :
    steps ≤ nodes.length := by
  let passed := (List.range steps).filterMap (Ancestry.climb parent · node)
  have everywhere :
      ∀ fewer < steps, ∃ below,
        Ancestry.climb parent fewer node = some below := fun fewer isFewer =>
    exists_climb_of_le (Nat.le_of_lt isFewer) found
  have distinct : passed.Nodup := by
    apply List.Nodup.filterMap _ List.nodup_range
    intro first second below isFirst isSecond
    exact ends.climb_inj isFirst isSecond
  have isListed : passed ⊆ nodes := by
    intro below member
    obtain ⟨fewer, isFewer, isBelow⟩ := List.mem_filterMap.mp member
    apply listed
    obtain ⟨next, isNext⟩ :=
      exists_climb_of_le (List.mem_range.mp isFewer) found
    rw [Nat.succ_eq_add_one, climb_succ, isBelow] at isNext
    exact Option.isSome_iff_exists.mpr ⟨next, isNext⟩
  have counted : passed.length = steps := by
    rw [List.length_filterMap_eq_countP, List.countP_eq_length.mpr]
    · exact List.length_range
    · intro fewer member
      obtain ⟨below, isBelow⟩ := everywhere fewer (List.mem_range.mp member)
      simp [isBelow]
  rw [← counted]
  exact (List.subperm_of_subset distinct isListed).length_le

/-! ### The first on a chain -/

variable
    {Result : Type resultLevel}
    (here : Node → Option Result)

/-- The first result on the chain of a node, if there is one. -/
inductive FirstOnChain
    (parent : Node → Option Node)
    (node : Node) : Option Result → Prop where
  | found
      (steps : Nat)
      (above : Node)
      (result : Result)
      (onChain : climb parent steps node = some above)
      (isHere : here above = some result)
      (first :
        ∀ fewer < steps, ∀ below,
          climb parent fewer node = some below → here below = none) :
      FirstOnChain parent node (some result)
  | missing
      (nowhere :
        ∀ steps above,
          climb parent steps node = some above → here above = none) :
      FirstOnChain parent node none

variable {here}

/-! ### Searching -/

variable (parent here)

/-- What a search has seen when it has climbed some steps. -/
structure Searched
    (node : Node)
    (steps : Nat)
    (visited : List Node)
    (current : Node) : Prop where
  isCurrent : climb parent steps node = some current
  seen :
    ∀ below, below ∈ visited ↔
      ∃ fewer < steps, climb parent fewer node = some below
  empty : ∀ below ∈ visited, here below = none
  distinct : visited.Nodup
  counted : visited.length = steps

variable {parent here}

theorem Searched.start (node : Node) :
    Searched parent here node 0 [] node where
  isCurrent := rfl
  seen := by simp
  empty := by simp
  distinct := List.nodup_nil
  counted := rfl

theorem Searched.step
    {node current above : Node}
    {visited : List Node}
    (searched : Searched parent here node steps visited current)
    (isNew : current ∉ visited)
    (nothing : here current = none)
    (isAbove : parent current = some above) :
    Searched parent here node (steps + 1) (current :: visited) above where
  isCurrent := by
    rw [climb_succ, searched.isCurrent]
    exact isAbove
  seen below := by
    rw [List.mem_cons, searched.seen]
    constructor
    · rintro (rfl | ⟨fewer, isFewer, isBelow⟩)
      · exact ⟨steps, Nat.lt_succ_self steps, searched.isCurrent⟩
      · exact ⟨fewer, Nat.lt_succ_of_lt isFewer, isBelow⟩
    · rintro ⟨fewer, isFewer, isBelow⟩
      rcases Nat.lt_succ_iff_lt_or_eq.mp isFewer with before | rfl
      · exact .inr ⟨fewer, before, isBelow⟩
      · rw [searched.isCurrent, Option.some.injEq] at isBelow
        exact .inl isBelow.symm
  empty below member := by
    rcases List.mem_cons.mp member with rfl | earlier
    · exact nothing
    · exact searched.empty below earlier
  distinct := List.nodup_cons.mpr ⟨isNew, searched.distinct⟩
  counted := by
    rw [List.length_cons, searched.counted]

theorem Searched.nothing
    {node current : Node}
    {visited : List Node}
    (searched : Searched parent here node steps visited current)
    {fewer : Nat}
    (isFewer : fewer < steps)
    {below : Node}
    (isBelow : climb parent fewer node = some below) :
    here below = none :=
  searched.empty below ((searched.seen below).mpr ⟨fewer, isFewer, isBelow⟩)

section Search

variable [DecidableEq Node]

variable (parent here) in
/-- Climb until something is found, or nothing is above, or been there. -/
def search : Nat → List Node → Node → Option (Option Result)
  | 0, _, _ =>
    none
  | fuel + 1, visited, current =>
    if current ∈ visited then
      some none
    else
      match here current with
      | some result =>
        some (some result)
      | none =>
        match parent current with
        | none => some none
        | some above => search fuel (current :: visited) above

/-- A search with enough fuel finds the first result on the chain. -/
theorem Searched.finds
    {nodes : List Node}
    (listed : ∀ node, (parent node).isSome → node ∈ nodes)
    {node current : Node}
    {steps fuel : Nat}
    {visited : List Node}
    (searched : Searched parent here node steps visited current)
    (isListed : visited ⊆ nodes)
    (enough : nodes.length < fuel + steps) :
    ∃ result,
      search parent here fuel visited current = some result ∧
        FirstOnChain here parent node result := by
  induction fuel generalizing steps visited current with
  | zero =>
    have bounded :=
      (List.subperm_of_subset searched.distinct isListed).length_le
    rw [searched.counted] at bounded
    omega
  | succ fuel inductionHypothesis =>
    by_cases isNew : current ∈ visited
    · refine ⟨none, by simp [search, isNew], .missing ?_⟩
      intro more above isAbove
      obtain ⟨fewer, isFewer, isBelow⟩ :=
        (searched.seen current).mp isNew
      obtain ⟨earlier, isEarlier, same⟩ :=
        exists_climb_lt_of_return isFewer isBelow searched.isCurrent more
      exact searched.nothing isEarlier (same ▸ isAbove)
    · cases found : here current with
      | some result =>
        refine ⟨some result, by simp [search, isNew, found], ?_⟩
        exact
          .found steps current result searched.isCurrent found
            fun fewer isFewer below => searched.nothing isFewer
      | none =>
        cases next : parent current with
        | none =>
          refine ⟨none, by simp [search, isNew, found, next],
            .missing ?_⟩
          intro more above isAbove
          rcases Nat.lt_trichotomy more steps with
            before | rfl | after
          · exact searched.nothing before isAbove
          · rw [searched.isCurrent, Option.some.injEq] at isAbove
            exact isAbove ▸ found
          · have ended : climb parent (steps + 1) node = none := by
              rw [climb_succ, searched.isCurrent]
              exact next
            rw [climb_none_of_le after ended] at isAbove
            cases isAbove
        | some above =>
          have hasParent : (parent current).isSome := by
            rw [next]
            rfl
          obtain ⟨result, finds, isFirst⟩ :=
            inductionHypothesis (searched.step isNew found next)
              (List.cons_subset.mpr ⟨listed current hasParent, isListed⟩)
              (by omega)
          refine ⟨result, ?_, isFirst⟩
          simpa [search, isNew, found, next] using finds

theorem search_finds
    {nodes : List Node}
    (listed : ∀ node, (parent node).isSome → node ∈ nodes)
    (node : Node)
    {fuel : Nat}
    (enough : nodes.length < fuel) :
    ∃ result,
      search parent here fuel [] node = some result ∧
        FirstOnChain here parent node result :=
  (Searched.start node).finds listed (List.nil_subset nodes) enough

end Search

end RpaPlatform.Ancestry
