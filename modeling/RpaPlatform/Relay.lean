import Mathlib.Data.List.Chain
import Mathlib.Data.List.Nodup
import Mathlib.Data.List.Pairwise
import Mathlib.Logic.Function.Basic

namespace RpaPlatform

/-!
# Relays

A relay is a sequence of items at consecutive positions in which each item is
made by whoever holds the baton of the item before it.  A baton is taken from
an item once, when the item is passed; its holder decides whether another item
follows, and makes it.  Holders act concurrently, in slots.

The invariant `Relay.Valid` says that at most one baton is out, that only the
last item can still be passed, and that positions follow each other.  It needs
no assumption on the order in which holders act, only that no item is passed
twice, which is part of the step relation.
-/

universe slotLevel itemLevel

/-- What the holder of a baton is about to do. -/
inductive Baton (Item : Type itemLevel) where
  /-- Decide what follows the item that was passed. -/
  | deciding (item : Item)
  /-- Make the item at a position. -/
  | making (position : Nat)

/-- The items made so far, those passed and handed out, and the batons. -/
structure Relay (Slot : Type slotLevel) (Item : Type itemLevel) where
  made : List (Item × Nat)
  passed : List Item
  handed : List Item
  batons : Slot → Option (Baton Item)

namespace Relay

variable {Slot : Type slotLevel} {Item : Type itemLevel}

def items (relay : Relay Slot Item) : List Item :=
  relay.made.map Prod.fst

/-- Change the baton in one slot. -/
def withBaton
    [DecidableEq Slot]
    (relay : Relay Slot Item)
    (slot : Slot)
    (baton : Option (Baton Item)) : Relay Slot Item :=
  { relay with batons := Function.update relay.batons slot baton }

/-- What can happen to a relay. -/
inductive Step [DecidableEq Slot] (before : Relay Slot Item) :
    Relay Slot Item → Prop where
  /-- Something else happens. -/
  | stay : Step before before
  /-- The first baton is given out. -/
  | start (slot : Slot) (position : Nat) :
      before.made = [] →
      (∀ other, before.batons other = none) →
      Step before (before.withBaton slot (some (.making position)))
  /-- An item is passed for the first time. -/
  | pass (slot : Slot) (item : Item) :
      item ∈ before.items →
      item ∉ before.passed →
      Step before
        { before.withBaton slot (some (.deciding item)) with
          passed := before.passed ++ [item] }
  /-- The holder decides that another item follows. -/
  | follow (slot : Slot) (item : Item) (position : Nat) :
      before.batons slot = some (.deciding item) →
      (item, position) ∈ before.made →
      Step before (before.withBaton slot (some (.making (position + 1))))
  /-- The holder makes the item. -/
  | make (slot : Slot) (item : Item) (position : Nat) :
      before.batons slot = some (.making position) →
      item ∉ before.items →
      Step before
        { before.withBaton slot none with
          made := before.made ++ [(item, position)] }
  /-- The holder gives up, or decides that nothing follows. -/
  | drop (slot : Slot) : Step before (before.withBaton slot none)
  /-- An item is handed out for the first time. -/
  | hand (item : Item) :
      item ∈ before.items →
      item ∉ before.handed →
      Step before { before with handed := before.handed ++ [item] }

/-- Positions follow each other, and at most one baton is out. -/
structure Valid (relay : Relay Slot Item) : Prop where
  /-- Items are made once. -/
  distinct : relay.items.Nodup
  consecutive : relay.made.IsChain fun earlier later => later.2 = earlier.2 + 1
  /-- There is one baton at most. -/
  oneBaton :
    ∀ {first second},
      relay.batons first ≠ none →
      relay.batons second ≠ none →
      first = second
  /-- While a baton is out, every item has been passed. -/
  allPassed :
    ∀ {slot},
      relay.batons slot ≠ none →
      ∀ item ∈ relay.items, item ∈ relay.passed
  /-- Only the last item may not have been passed. -/
  lastUnpassed :
    ∀ entry ∈ relay.made,
      entry.1 ∉ relay.passed →
      relay.made.getLast? = some entry
  deciding :
    ∀ {slot item},
      relay.batons slot = some (.deciding item) →
      ∃ position, relay.made.getLast? = some (item, position)
  making :
    ∀ {slot position},
      relay.batons slot = some (.making position) →
      ∀ last ∈ relay.made.getLast?, position = last.2 + 1

namespace Valid

variable {relay : Relay Slot Item}

theorem increasing
    (valid : relay.Valid) :
    relay.made.Pairwise fun earlier later => earlier.2 < later.2 := by
  have ascending :
      relay.made.IsChain fun earlier later => earlier.2 < later.2 :=
    valid.consecutive.imp fun follows => by omega
  exact ascending.pairwise

theorem unique
    (valid : relay.Valid)
    {first second : Item × Nat}
    (firstMade : first ∈ relay.made)
    (secondMade : second ∈ relay.made)
    (samePosition : first.2 = second.2) :
    first = second := by
  have positions : (relay.made.map Prod.snd).Nodup :=
    List.pairwise_map.mpr <|
      valid.increasing.imp fun before => Nat.ne_of_lt before
  exact List.inj_on_of_nodup_map positions firstMade secondMade samePosition

theorem position_unique
    (valid : relay.Valid)
    {item : Item}
    {first second : Nat}
    (firstMade : (item, first) ∈ relay.made)
    (secondMade : (item, second) ∈ relay.made) :
    first = second := by
  have same :=
    List.inj_on_of_nodup_map valid.distinct firstMade secondMade rfl
  exact congrArg Prod.snd same

theorem noBaton
    (valid : relay.Valid)
    {item : Item}
    (made : item ∈ relay.items)
    (unpassed : item ∉ relay.passed)
    (slot : Slot) :
    relay.batons slot = none := by
  by_contra out
  exact unpassed (valid.allPassed out item made)

theorem elsewhere
    (valid : relay.Valid)
    {slot other : Slot}
    {baton : Baton Item}
    (holds : relay.batons slot = some baton)
    (different : other ≠ slot) :
    relay.batons other = none := by
  by_contra out
  exact different
    (valid.oneBaton out (by rw [holds]; exact Option.some_ne_none _))

theorem position_le_last
    (valid : relay.Valid)
    {last entry : Item × Nat}
    (isLast : relay.made.getLast? = some last)
    (member : entry ∈ relay.made) :
    entry.2 ≤ last.2 := by
  obtain ⟨earlier, shape⟩ := List.getLast?_eq_some_iff.mp isLast
  have ordered := valid.increasing
  rw [shape, List.pairwise_append] at ordered
  rw [shape, List.mem_append, List.mem_singleton] at member
  rcases member with before | rfl
  · exact Nat.le_of_lt
      (ordered.2.2 entry before last (List.mem_singleton.mpr rfl))
  · exact Nat.le_refl _

end Valid

/-! ### The order in which items are handed out -/

/--
Items have been handed out in the order in which they were made, all of them
but possibly the last, and none was passed before it was handed out.
-/
structure InOrder (relay : Relay Slot Item) : Prop where
  handed :
    relay.items = relay.handed ∨ ∃ last, relay.items = relay.handed ++ [last]
  passedHanded : ∀ item ∈ relay.passed, item ∈ relay.handed

variable
    {relay : Relay Slot Item}
    {last : Item × Nat}

theorem InOrder.isPrefix
    (inOrder : relay.InOrder) :
    relay.handed <+: relay.items := by
  rcases inOrder.handed with all | ⟨last, allButLast⟩
  · exact all ▸ List.prefix_rfl
  · rw [allButLast]
    exact List.prefix_append ..

/-! ### Closed relays -/

/-- The last item is known, and no baton is out. -/
structure Closed (relay : Relay Slot Item) (last : Item × Nat) : Prop where
  isLast : relay.made.getLast? = some last
  noBaton : ∀ slot, relay.batons slot = none

theorem Valid.closed
    (valid : relay.Valid)
    (made : last ∈ relay.made)
    (unpassed : last.1 ∉ relay.passed) :
    relay.Closed last where
  isLast := valid.lastUnpassed last made unpassed
  noBaton := valid.noBaton (List.mem_map_of_mem made) unpassed

/-! ### Steps keep relays valid -/

theorem valid_of_empty
    (nothingMade : relay.made = [])
    (noBaton : ∀ slot, relay.batons slot = none) :
    relay.Valid where
  distinct := by
    simp [items, nothingMade]
  consecutive := by
    simp [nothingMade]
  oneBaton := fun out _ => (out (noBaton _)).elim
  allPassed := fun out => (out (noBaton _)).elim
  lastUnpassed := by
    simp [nothingMade]
  deciding := by
    intro slot item out
    rw [noBaton] at out
    cases out
  making := by
    intro slot position out
    rw [noBaton] at out
    cases out

section Batons

variable [DecidableEq Slot] (relay : Relay Slot Item)

@[simp]
theorem withBaton_made (slot : Slot) (baton : Option (Baton Item)) :
    (relay.withBaton slot baton).made = relay.made :=
  rfl

theorem withBaton_other
    {slot other : Slot}
    (baton : Option (Baton Item))
    (different : other ≠ slot) :
    (relay.withBaton slot baton).batons other = relay.batons other := by
  simp [withBaton, different]

@[simp]
theorem withBaton_self (slot : Slot) (baton : Option (Baton Item)) :
    (relay.withBaton slot baton).batons slot = baton := by
  simp [withBaton]

end Batons

namespace Valid

variable [DecidableEq Slot] {relay : Relay Slot Item}

variable {slot : Slot}

theorem noBaton_drop
    (valid : relay.Valid)
    {baton : Baton Item}
    (holds : relay.batons slot = some baton)
    (other : Slot) :
    (relay.withBaton slot none).batons other = none := by
  by_cases same : other = slot
  · subst other
    exact relay.withBaton_self slot none
  · rw [relay.withBaton_other none same]
    exact valid.elsewhere holds same

theorem oneBaton_withBaton
    {baton : Option (Baton Item)}
    (alone : ∀ other, relay.batons other ≠ none → other = slot)
    {first second : Slot}
    (firstOut : (relay.withBaton slot baton).batons first ≠ none)
    (secondOut : (relay.withBaton slot baton).batons second ≠ none) :
    first = second := by
  have isSlot :
      ∀ other,
        (relay.withBaton slot baton).batons other ≠ none →
        other = slot := by
    intro other out
    by_contra different
    rw [relay.withBaton_other baton different] at out
    exact different (alone other out)
  rw [isSlot first firstOut, isSlot second secondOut]

theorem drop
    (valid : relay.Valid)
    (slot : Slot) :
    (relay.withBaton slot none).Valid := by
  have kept :
      ∀ {other baton},
        (relay.withBaton slot none).batons other = some baton →
        relay.batons other = some baton := by
    intro other baton out
    by_cases same : other = slot
    · subst other
      rw [relay.withBaton_self] at out
      cases out
    · rwa [relay.withBaton_other none same] at out
  have out :
      ∀ {other},
        (relay.withBaton slot none).batons other ≠ none →
        relay.batons other ≠ none := by
    intro other held
    obtain ⟨baton, holds⟩ := Option.ne_none_iff_exists'.mp held
    rw [kept holds]
    exact Option.some_ne_none baton
  exact {
    distinct := valid.distinct
    consecutive := valid.consecutive
    oneBaton := fun first second => valid.oneBaton (out first) (out second)
    allPassed := fun held => valid.allPassed (out held)
    lastUnpassed := valid.lastUnpassed
    deciding := fun holds => valid.deciding (kept holds)
    making := fun holds => valid.making (kept holds)
  }

theorem give
    (valid : relay.Valid)
    (noBaton : ∀ other, relay.batons other = none)
    (slot : Slot)
    (baton : Baton Item)
    (allPassed : ∀ item ∈ relay.items, item ∈ relay.passed)
    (deciding :
      ∀ item,
        baton = .deciding item →
        ∃ position, relay.made.getLast? = some (item, position))
    (making :
      ∀ position,
        baton = .making position →
        ∀ last ∈ relay.made.getLast?, position = last.2 + 1) :
    (relay.withBaton slot (some baton)).Valid := by
  have alone : ∀ other, relay.batons other ≠ none → other = slot :=
    fun other out => (out (noBaton other)).elim
  have holds :
      ∀ {other held},
        (relay.withBaton slot (some baton)).batons other = some held →
        baton = held := by
    intro other held out
    by_cases same : other = slot
    · subst other
      rw [relay.withBaton_self] at out
      exact Option.some.inj out
    · rw [relay.withBaton_other _ same, noBaton] at out
      cases out
  exact {
    distinct := valid.distinct
    consecutive := valid.consecutive
    oneBaton := oneBaton_withBaton alone
    allPassed := fun _ => allPassed
    lastUnpassed := valid.lastUnpassed
    deciding := fun out => deciding _ (holds out)
    making := fun out => making _ (holds out)
  }

theorem exchange
    (valid : relay.Valid)
    {held baton : Baton Item}
    (holds : relay.batons slot = some held)
    (deciding :
      ∀ item,
        baton = .deciding item →
        ∃ position, relay.made.getLast? = some (item, position))
    (making :
      ∀ position,
        baton = .making position →
        ∀ last ∈ relay.made.getLast?, position = last.2 + 1) :
    (relay.withBaton slot (some baton)).Valid := by
  have given :=
    (valid.drop slot).give (valid.noBaton_drop holds) slot baton
      (valid.allPassed (by rw [holds]; exact Option.some_ne_none _))
      deciding making
  have same :
      (relay.withBaton slot none).withBaton slot (some baton) =
        relay.withBaton slot (some baton) := by
    simp [withBaton]
  rwa [same] at given

/-- Passing the last item for the first time keeps a relay valid. -/
theorem pass
    (valid : relay.Valid)
    (slot : Slot)
    {item : Item}
    (made : item ∈ relay.items)
    (unpassed : item ∉ relay.passed) :
    ({ relay.withBaton slot (some (.deciding item)) with
        passed := relay.passed ++ [item] } : Relay Slot Item).Valid := by
  obtain ⟨⟨same, position⟩, member, rfl⟩ := List.mem_map.mp made
  have isLast : relay.made.getLast? = some (same, position) :=
    valid.lastUnpassed (same, position) member unpassed
  have passedOthers :
      ∀ entry ∈ relay.made,
        entry.1 ∉ relay.passed →
        entry = (same, position) := by
    intro entry entryMember entryUnpassed
    have alsoLast := valid.lastUnpassed entry entryMember entryUnpassed
    rw [isLast] at alsoLast
    exact (Option.some.inj alsoLast).symm
  let passing : Relay Slot Item :=
    { relay with passed := relay.passed ++ [same] }
  have everyPassed : ∀ other ∈ passing.items, other ∈ passing.passed := by
    intro other otherMade
    obtain ⟨entry, entryMember, rfl⟩ := List.mem_map.mp otherMade
    rw [List.mem_append, List.mem_singleton]
    by_cases entryPassed : entry.1 ∈ relay.passed
    · exact .inl entryPassed
    · exact .inr (congrArg Prod.fst
        (passedOthers entry entryMember entryPassed))
  have noBaton : ∀ other, passing.batons other = none :=
    valid.noBaton made unpassed
  have passingValid : passing.Valid := {
    distinct := valid.distinct
    consecutive := valid.consecutive
    oneBaton := fun out _ => (out (noBaton _)).elim
    allPassed := fun out => (out (noBaton _)).elim
    lastUnpassed := by
      intro entry entryMember entryUnpassed
      exact (entryUnpassed
        (everyPassed entry.1 (List.mem_map_of_mem entryMember))).elim
    deciding := by
      intro other otherItem out
      rw [noBaton] at out
      cases out
    making := by
      intro other otherPosition out
      rw [noBaton] at out
      cases out
  }
  exact passingValid.give noBaton slot (.deciding same) everyPassed
    (by
      rintro other ⟨⟩
      exact ⟨position, isLast⟩)
    (by rintro other ⟨⟩)

/-- Making the item that is due keeps a relay valid. -/
theorem make
    (valid : relay.Valid)
    {item : Item}
    {position : Nat}
    (holds : relay.batons slot = some (.making position))
    (fresh : item ∉ relay.items) :
    ({ relay.withBaton slot none with
        made := relay.made ++ [(item, position)] } :
      Relay Slot Item).Valid := by
  have noBaton := valid.noBaton_drop holds
  have everyPassed : ∀ other ∈ relay.items, other ∈ relay.passed :=
    valid.allPassed (by rw [holds]; exact Option.some_ne_none _)
  exact {
    distinct := by
      simp only [items, List.map_append, List.map_cons, List.map_nil]
      rw [List.nodup_append]
      refine ⟨valid.distinct, List.nodup_singleton item, ?_⟩
      rintro other otherMade _ isItem rfl
      rw [List.mem_singleton] at isItem
      subst other
      exact fresh otherMade
    consecutive := by
      rw [List.isChain_append]
      refine ⟨valid.consecutive, List.isChain_singleton _, ?_⟩
      intro last isLast next isNext
      simp only [List.head?_cons, Option.mem_def, Option.some.injEq] at isNext
      subst next
      exact valid.making holds last isLast
    oneBaton := fun out _ => (out (noBaton _)).elim
    allPassed := fun out => (out (noBaton _)).elim
    lastUnpassed := by
      intro entry member unpassed
      rw [List.mem_append, List.mem_singleton] at member
      rcases member with earlier | rfl
      · exact (unpassed
          (everyPassed entry.1 (List.mem_map_of_mem earlier))).elim
      · exact List.getLast?_concat ..
    deciding := by
      intro other otherItem out
      rw [noBaton] at out
      cases out
    making := by
      intro other otherPosition out
      rw [noBaton] at out
      cases out
  }

end Valid

variable [DecidableEq Slot] {before after : Relay Slot Item}

theorem Valid.step
    (valid : before.Valid)
    (step : Step before after) :
    after.Valid := by
  cases step with
  | stay =>
    exact valid
  | start slot position nothingMade noBaton =>
    refine valid.give noBaton slot (.making position) ?_ ?_ ?_
    · simp [items, nothingMade]
    · rintro item ⟨⟩
    · simp [nothingMade]
  | pass slot item made unpassed =>
    exact valid.pass slot made unpassed
  | follow slot item position holds member =>
    refine valid.exchange holds ?_ ?_
    · rintro other ⟨⟩
    · rintro next ⟨⟩ last isLast
      obtain ⟨known, knownLast⟩ := valid.deciding holds
      rw [Option.mem_def, knownLast] at isLast
      cases isLast
      have knownMember : (item, known) ∈ before.made :=
        List.mem_of_getLast? knownLast
      rw [valid.position_unique member knownMember]
  | make slot item position holds fresh =>
    exact valid.make holds fresh
  | drop slot =>
    exact valid.drop slot
  | hand item made unhanded =>
    exact {
      distinct := valid.distinct
      consecutive := valid.consecutive
      oneBaton := valid.oneBaton
      allPassed := valid.allPassed
      lastUnpassed := valid.lastUnpassed
      deciding := valid.deciding
      making := valid.making
    }

/-! ### Keeping items in order -/

/--
Items stay in order as long as an item is passed only after it has been
handed out.
-/
theorem InOrder.step
    (inOrder : before.InOrder)
    (valid : before.Valid)
    (step : Step before after)
    (handedFirst :
      ∀ item ∈ after.passed, item ∉ before.passed → item ∈ before.handed) :
    after.InOrder := by
  cases step with
  | stay | start | follow | drop =>
    exact ⟨inOrder.handed, inOrder.passedHanded⟩
  | pass slot item made unpassed =>
    refine ⟨inOrder.handed, ?_⟩
    intro other member
    rw [List.mem_append, List.mem_singleton] at member
    rcases member with earlier | rfl
    · exact inOrder.passedHanded other earlier
    · exact handedFirst other
        (List.mem_append_right _ (List.mem_singleton.mpr rfl)) unpassed
  | make slot item position holds fresh =>
    have everyHanded : ∀ other ∈ before.items, other ∈ before.handed :=
      fun other made =>
        inOrder.passedHanded other <|
          valid.allPassed
            (by rw [holds]; exact Option.some_ne_none _) other made
    have allHanded : before.items = before.handed := by
      rcases inOrder.handed with all | ⟨last, allButLast⟩
      · exact all
      · have distinct := valid.distinct
        have lastHanded : last ∈ before.handed :=
          everyHanded last (by simp [allButLast])
        rw [allButLast, List.nodup_append] at distinct
        exact (distinct.2.2 last lastHanded last
          (List.mem_singleton.mpr rfl) rfl).elim
    refine ⟨.inr ⟨item, ?_⟩, inOrder.passedHanded⟩
    simp only [items, List.map_append, List.map_cons, List.map_nil]
    exact congrArg (· ++ [item]) allHanded
  | hand item made unhanded =>
    refine ⟨.inl ?_, ?_⟩
    · rcases inOrder.handed with all | ⟨last, allButLast⟩
      · exact (unhanded (all ▸ made)).elim
      · rw [allButLast, List.mem_append, List.mem_singleton] at made
        rcases made with handed | rfl
        · exact (unhanded handed).elim
        · exact allButLast
    · exact fun other passed =>
        List.mem_append_left _ (inOrder.passedHanded other passed)

/-! ### Relays that come to an end -/

theorem Valid.closed_drop
    (valid : relay.Valid)
    {slot : Slot}
    (holds : relay.batons slot = some (.deciding last.1))
    (made : last ∈ relay.made) :
    (relay.withBaton slot none).Closed last where
  isLast := by
    obtain ⟨position, isLast⟩ := valid.deciding holds
    have member : (last.1, position) ∈ relay.made :=
      List.mem_of_getLast? isLast
    have same : position = last.2 := valid.position_unique member made
    rw [withBaton_made, isLast, same]
  noBaton := valid.noBaton_drop holds

theorem Closed.step
    (closed : before.Closed last)
    (step : Step before after)
    (passesNone : ∀ item ∈ after.passed, item ∈ before.passed) :
    after.Closed last := by
  cases step with
  | stay =>
    exact closed
  | start slot position nothingMade noBaton =>
    have isLast := closed.isLast
    rw [nothingMade] at isLast
    cases isLast
  | pass slot item made unpassed =>
    exact (unpassed (passesNone item
      (List.mem_append_right _ (List.mem_singleton.mpr rfl)))).elim
  | follow slot item position holds member =>
    rw [closed.noBaton] at holds
    cases holds
  | make slot item position holds fresh =>
    rw [closed.noBaton] at holds
    cases holds
  | drop slot =>
    refine ⟨closed.isLast, ?_⟩
    intro other
    by_cases same : other = slot
    · subst other
      exact before.withBaton_self slot none
    · rw [before.withBaton_other none same]
      exact closed.noBaton other
  | hand item made unhanded =>
    exact ⟨closed.isLast, closed.noBaton⟩

end Relay

end RpaPlatform
