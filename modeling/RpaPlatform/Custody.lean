import Mathlib.Logic.Basic

namespace RpaPlatform

/-!
# Items in the custody of owners

An owner is to own one item at most.  Items are given by holders: a holder
grips an owner, which no other holder can do meanwhile, learns which items the
owner may still own, and gives it an item once there can be no other one.
Items may be lost at any time, since that never hurts.
-/

universe holderLevel ownerLevel itemLevel

/-- A grip on an owner, and the items that the owner may own. -/
structure Grip (Owner : Type ownerLevel) (Item : Type itemLevel) where
  owner : Owner
  mayOwn : Item → Prop

/-- What is owned, and who is gripped. -/
structure Custody
    (Holder : Type holderLevel)
    (Owner : Type ownerLevel)
    (Item : Type itemLevel) where
  owns : Owner → Item → Prop
  grips : Holder → Option (Grip Owner Item)

namespace Custody

variable
    {Holder : Type holderLevel}
    {Owner : Type ownerLevel}
    {Item : Type itemLevel}

def NoGain (before after : Custody Holder Owner Item) : Prop :=
  ∀ owner item, after.owns owner item → before.owns owner item

/-- The grips of the holders other than one stay as they are. -/
def KeepsOthers
    (before after : Custody Holder Owner Item)
    (holder : Holder) : Prop :=
  ∀ other, other ≠ holder → after.grips other = before.grips other

/-- A step of one holder, or of none. -/
inductive Step (before after : Custody Holder Owner Item) : Prop where
  | lose
      (noGain : NoGain before after)
      (same : after.grips = before.grips)
  /-- An owner is gripped that no one grips. -/
  | take
      {holder : Holder}
      {grip : Grip Owner Item}
      (free :
        ∀ other held, before.grips other = some held → held.owner ≠ grip.owner)
      (known : ∀ item, after.owns grip.owner item → grip.mayOwn item)
      (noGain : NoGain before after)
      (taken : after.grips holder = some grip)
      (keepsOthers : KeepsOthers before after holder)
  /-- A holder learns what the owner may still own. -/
  | learn
      {holder : Holder}
      {grip learned : Grip Owner Item}
      (held : before.grips holder = some grip)
      (sameOwner : learned.owner = grip.owner)
      (known : ∀ item, after.owns learned.owner item → learned.mayOwn item)
      (noGain : NoGain before after)
      (kept : after.grips holder = some learned)
      (keepsOthers : KeepsOthers before after holder)
  /-- A holder gives the owner the only item that it may own. -/
  | give
      {holder : Holder}
      {grip given : Grip Owner Item}
      {item : Item}
      (held : before.grips holder = some grip)
      (sameOwner : given.owner = grip.owner)
      (only : ∀ other, grip.mayOwn other → other = item)
      (gains :
        ∀ owner other,
          after.owns owner other →
          before.owns owner other ∨ owner = grip.owner ∧ other = item)
      (free : ∀ other, given.mayOwn other)
      (kept : after.grips holder = some given)
      (keepsOthers : KeepsOthers before after holder)
  | release
      {holder : Holder}
      (noGain : NoGain before after)
      (released : after.grips holder = none)
      (keepsOthers : KeepsOthers before after holder)

/-- Each owner owns one item at most, and the holders are right about it. -/
structure Valid (custody : Custody Holder Owner Item) : Prop where
  single :
    ∀ {owner first second},
      custody.owns owner first → custody.owns owner second → first = second
  exclusive :
    ∀ {first second : Holder} {firstGrip secondGrip},
      custody.grips first = some firstGrip →
      custody.grips second = some secondGrip →
      firstGrip.owner = secondGrip.owner →
      first = second
  bounded :
    ∀ {holder grip item},
      custody.grips holder = some grip →
      custody.owns grip.owner item →
      grip.mayOwn item

namespace Valid

variable {before after : Custody Holder Owner Item}

theorem regrip
    (valid : Valid before)
    {holder : Holder}
    {grip : Grip Owner Item}
    (alone :
      ∀ other held,
        other ≠ holder →
        before.grips other = some held →
        held.owner ≠ grip.owner)
    (known : ∀ item, after.owns grip.owner item → grip.mayOwn item)
    (single :
      ∀ {owner first second},
        after.owns owner first → after.owns owner second → first = second)
    (bounded :
      ∀ other held item,
        other ≠ holder →
        before.grips other = some held →
        after.owns held.owner item →
        held.mayOwn item)
    (taken : after.grips holder = some grip)
    (keepsOthers : KeepsOthers before after holder) : Valid after where
  single := single
  exclusive {first second firstGrip secondGrip} holdsFirst holdsSecond
      sameOwner := by
    by_cases isFirst : first = holder
    · by_cases isSecond : second = holder
      · rw [isFirst, isSecond]
      · rw [isFirst, taken] at holdsFirst
        rw [keepsOthers second isSecond] at holdsSecond
        cases holdsFirst
        exact absurd sameOwner.symm (alone second _ isSecond holdsSecond)
    · rw [keepsOthers first isFirst] at holdsFirst
      by_cases isSecond : second = holder
      · rw [isSecond, taken] at holdsSecond
        cases holdsSecond
        exact absurd sameOwner (alone first _ isFirst holdsFirst)
      · rw [keepsOthers second isSecond] at holdsSecond
        exact valid.exclusive holdsFirst holdsSecond sameOwner
  bounded {other held item} holds owned := by
    by_cases isHolder : other = holder
    · rw [isHolder, taken] at holds
      cases holds
      exact known item owned
    · rw [keepsOthers other isHolder] at holds
      exact bounded other held item isHolder holds owned

theorem weaken
    (valid : Valid before)
    (noGain : NoGain before after)
    (fewer :
      ∀ {holder grip},
        after.grips holder = some grip →
        before.grips holder = some grip) : Valid after where
  single ownsFirst ownsSecond :=
    valid.single (noGain _ _ ownsFirst) (noGain _ _ ownsSecond)
  exclusive holdsFirst holdsSecond :=
    valid.exclusive (fewer holdsFirst) (fewer holdsSecond)
  bounded holds owned :=
    valid.bounded (fewer holds) (noGain _ _ owned)

theorem otherOwner
    (valid : Valid before)
    {holder other : Holder}
    {grip held : Grip Owner Item}
    (holds : before.grips holder = some grip)
    (different : other ≠ holder)
    (otherHolds : before.grips other = some held) :
    held.owner ≠ grip.owner :=
  fun sameOwner => different (valid.exclusive otherHolds holds sameOwner)

/-- Every step leaves each owner with one item at most. -/
theorem step
    (valid : Valid before)
    (stepped : Step before after) : Valid after := by
  cases stepped with
  | lose noGain same =>
    exact valid.weaken noGain fun holds => same ▸ holds
  | @take holder grip free known noGain taken keepsOthers =>
    refine
      valid.regrip (fun other held _ => free other held) known
        (fun ownsFirst ownsSecond =>
          valid.single (noGain _ _ ownsFirst) (noGain _ _ ownsSecond))
        ?_ taken keepsOthers
    intro other held item _ holds owned
    exact valid.bounded holds (noGain _ _ owned)
  | @learn holder grip learned held sameOwner known noGain kept
      keepsOthers =>
      refine
        valid.regrip ?_ known
          (fun ownsFirst ownsSecond =>
            valid.single (noGain _ _ ownsFirst) (noGain _ _ ownsSecond))
          ?_ kept keepsOthers
      · intro other otherGrip different holds
        rw [sameOwner]
        exact valid.otherOwner held different holds
      · intro other otherGrip item _ holds owned
        exact valid.bounded holds (noGain _ _ owned)
  | @give holder grip given item held sameOwner only gains free kept
      keepsOthers =>
      have isItem : ∀ {other}, after.owns grip.owner other → other = item := by
        intro other owned
        rcases gains _ _ owned with earlier | ⟨_, isItem⟩
        · exact only other (valid.bounded held earlier)
        · exact isItem
      refine valid.regrip ?_ (fun other _ => free other) ?_ ?_ kept keepsOthers
      · intro other otherGrip different holds
        rw [sameOwner]
        exact valid.otherOwner held different holds
      · intro owner first second ownsFirst ownsSecond
        by_cases isGripped : owner = grip.owner
        · subst isGripped
          rw [isItem ownsFirst, isItem ownsSecond]
        · have earlier :
              ∀ {other}, after.owns owner other → before.owns owner other := by
            intro other owned
            rcases gains _ _ owned with earlier | ⟨isOwner, _⟩
            · exact earlier
            · exact absurd isOwner isGripped
          exact valid.single (earlier ownsFirst) (earlier ownsSecond)
      · intro other otherGrip owned different holds isOwned
        rcases gains _ _ isOwned with earlier | ⟨isOwner, _⟩
        · exact valid.bounded holds earlier
        · exact absurd isOwner (valid.otherOwner held different holds)
  | @release holder noGain released keepsOthers =>
    refine valid.weaken noGain ?_
    intro other grip holds
    by_cases isHolder : other = holder
    · rw [isHolder, released] at holds
      cases holds
    · rwa [keepsOthers other isHolder] at holds

end Valid

end Custody

end RpaPlatform
