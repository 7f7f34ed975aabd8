import Mathlib.Data.List.Basic

namespace RpaPlatform.Base64

/-!
# Base64 with the URL-safe alphabet

Bytes as text, three bytes in four characters, padded at the end.  `decode` is
the inverse of `encode` on its outputs, whose shape `encode_shape` describes:
characters of the alphabet, then less than four padding characters, to a
multiple of four.  `decodeLenient` takes any text: it skips what is of no
alphabet, and stops where the padding completes a group.
-/

/-- The character of a six-bit value. -/
def charOf (value : Nat) : Char :=
  if value < 26 then
    Char.ofNat (65 + value)
  else if value < 52 then
    Char.ofNat (97 + (value - 26))
  else if value < 62 then
    Char.ofNat (48 + (value - 52))
  else if value = 62 then
    '-'
  else
    '_'

/-- The six-bit value of a character. -/
def valueOf (char : Char) : Option Nat :=
  if 'A' ≤ char ∧ char ≤ 'Z' then
    some (char.toNat - 65)
  else if 'a' ≤ char ∧ char ≤ 'z' then
    some (char.toNat - 97 + 26)
  else if '0' ≤ char ∧ char ≤ '9' then
    some (char.toNat - 48 + 52)
  else if char = '-' then
    some 62
  else if char = '_' then
    some 63
  else
    none

def isDigit (char : Char) : Bool :=
  (valueOf char).isSome

/-- The text of a sequence of bytes. -/
def encode : List UInt8 → List Char
  | [] =>
    []
  | [first] =>
    [charOf (first.toNat / 4), charOf (first.toNat % 4 * 16), '=', '=']
  | [first, second] =>
    [charOf (first.toNat / 4),
      charOf (first.toNat % 4 * 16 + second.toNat / 16),
      charOf (second.toNat % 16 * 4), '=']
  | first :: second :: third :: rest =>
    [charOf (first.toNat / 4),
      charOf (first.toNat % 4 * 16 + second.toNat / 16),
      charOf (second.toNat % 16 * 4 + third.toNat / 64),
      charOf (third.toNat % 64)] ++
      encode rest

def firstByte (first second : Nat) : UInt8 :=
  UInt8.ofNat (first * 4 + second / 16)

def secondByte (second third : Nat) : UInt8 :=
  UInt8.ofNat (second % 16 * 16 + third / 4)

def thirdByte (third fourth : Nat) : UInt8 :=
  UInt8.ofNat (third % 4 * 64 + fourth)

/-- The bytes of a padded text. -/
def decode : List Char → Option (List UInt8)
  | [] =>
    some []
  | first :: second :: third :: fourth :: rest => do
      let a ← valueOf first
      let b ← valueOf second
      if third = '=' then
        if fourth = '=' ∧ rest = [] then
          some [firstByte a b]
        else
          none
      else
        let c ← valueOf third
        if fourth = '=' then
          if rest = [] then
            some [firstByte a b, secondByte b c]
          else
            none
        else
          let d ← valueOf fourth
          let bytes ← decode rest
          some (firstByte a b :: secondByte b c :: thirdByte c d :: bytes)
  | _ =>
    none

/-- The six-bit value of a character of either alphabet. -/
def valueOfAny (char : Char) : Option Nat :=
  if char = '+' then
    some 62
  else if char = '/' then
    some 63
  else
    valueOf char

/-- A position in a group of four digits. -/
structure GroupPosition where
  index : Nat
  /-- The bits that are left of the digit before. -/
  left : Nat

/-- Read a digit; the byte that it completes comes with the next position. -/
def GroupPosition.read
    (position : GroupPosition)
    (value : Nat) : GroupPosition × List UInt8 :=
  match position.index with
  | 0 => (⟨1, value⟩, [])
  | 1 => (⟨2, value % 16⟩, [UInt8.ofNat (position.left * 4 + value / 16)])
  | 2 => (⟨3, value % 4⟩, [UInt8.ofNat (position.left * 16 + value / 4)])
  | _ => (⟨0, 0⟩, [UInt8.ofNat (position.left * 64 + value)])

/-- Decode a text from a position, after some padding characters. -/
def decodeFrom (position : GroupPosition) (pads : Nat) :
    List Char → Option (List UInt8)
  | [] =>
    if position.index = 0 then some [] else none
  | char :: rest =>
    if char = '=' then
      if position.index < 2 then
        decodeFrom position pads rest
      else if 4 ≤ position.index + (pads + 1) then
        some []
      else
        decodeFrom position (pads + 1) rest
    else
      match valueOfAny char with
      | none =>
        decodeFrom position pads rest
      | some value =>
        (decodeFrom (position.read value).1 0 rest).map
          ((position.read value).2 ++ ·)

/-- The bytes of a text, with whatever it has between its digits. -/
def decodeLenient (text : List Char) : Option (List UInt8) :=
  decodeFrom ⟨0, 0⟩ 0 text

variable {value : Nat}

theorem valueOf_charOf
    (bound : value < 64) :
    valueOf (charOf value) = some value := by
  revert value
  decide

theorem charOf_ne_padding
    (bound : value < 64) :
    charOf value ≠ '=' := by
  revert value
  decide

theorem valueOfAny_charOf
    (bound : value < 64) :
    valueOfAny (charOf value) = some value := by
  revert value
  decide

theorem isDigit_charOf
    (bound : value < 64) :
    isDigit (charOf value) = true := by
  rw [isDigit, valueOf_charOf bound]
  rfl

section Groups

variable (first second third : UInt8)

theorem firstDigit_lt : first.toNat / 4 < 64 := by
  have bound := first.toNat_lt
  omega

theorem secondDigit_lt :
    first.toNat % 4 * 16 + second.toNat / 16 < 64 := by
  have bound := second.toNat_lt
  omega

theorem thirdDigit_lt :
    second.toNat % 16 * 4 + third.toNat / 64 < 64 := by
  have bound := third.toNat_lt
  omega

theorem singleDigit_lt : first.toNat % 4 * 16 < 64 := by
  omega

theorem pairDigit_lt : second.toNat % 16 * 4 < 64 := by
  omega

theorem fourthDigit_lt : third.toNat % 64 < 64 := by
  omega

theorem firstByte_digits (low : Nat) (bound : low < 16) :
    firstByte (first.toNat / 4) (first.toNat % 4 * 16 + low) = first := by
  have whole :
      first.toNat / 4 * 4 + (first.toNat % 4 * 16 + low) / 16 =
        first.toNat := by
    omega
  rw [firstByte, whole, UInt8.ofNat_toNat]

theorem firstByte_single :
    firstByte (first.toNat / 4) (first.toNat % 4 * 16) = first :=
  firstByte_digits first 0 (by decide)

theorem firstByte_group :
    firstByte (first.toNat / 4)
      (first.toNat % 4 * 16 + second.toNat / 16) = first := by
  have small := second.toNat_lt
  exact firstByte_digits first _ (by omega)

theorem secondByte_digits (high low : Nat) (bound : low < 4) :
    secondByte (high * 16 + second.toNat / 16)
      (second.toNat % 16 * 4 + low) = second := by
  have small := second.toNat_lt
  have whole :
      (high * 16 + second.toNat / 16) % 16 * 16 +
          (second.toNat % 16 * 4 + low) / 4 =
        second.toNat := by
    omega
  rw [secondByte, whole, UInt8.ofNat_toNat]

theorem secondByte_pair (high : Nat) :
    secondByte (high * 16 + second.toNat / 16) (second.toNat % 16 * 4) =
      second :=
  secondByte_digits second high 0 (by decide)

theorem secondByte_group (high : Nat) :
    secondByte (high * 16 + second.toNat / 16)
      (second.toNat % 16 * 4 + third.toNat / 64) = second := by
  have small := third.toNat_lt
  exact secondByte_digits second high _ (by omega)

theorem thirdByte_digits (high : Nat) :
    thirdByte (high * 4 + third.toNat / 64) (third.toNat % 64) = third := by
  have small := third.toNat_lt
  have whole :
      (high * 4 + third.toNat / 64) % 4 * 64 + third.toNat % 64 =
        third.toNat := by
    omega
  rw [thirdByte, whole, UInt8.ofNat_toNat]

end Groups

theorem decode_encode (bytes : List UInt8) :
    decode (encode bytes) = some bytes := by
  fun_induction encode bytes with
  | case1 =>
    rfl
  | case2 first =>
    simp [decode, valueOf_charOf (firstDigit_lt first),
      valueOf_charOf (singleDigit_lt first), firstByte_single first]
  | case3 first second =>
    simp [decode, valueOf_charOf (firstDigit_lt first),
      valueOf_charOf (secondDigit_lt first second),
      valueOf_charOf (pairDigit_lt second),
      charOf_ne_padding (pairDigit_lt second),
      firstByte_group first second, secondByte_pair second]
  | case4 first second third rest inductionHypothesis =>
    simp [decode, valueOf_charOf (firstDigit_lt first),
      valueOf_charOf (secondDigit_lt first second),
      valueOf_charOf (thirdDigit_lt second third),
      valueOf_charOf (fourthDigit_lt third),
      charOf_ne_padding (thirdDigit_lt second third),
      charOf_ne_padding (fourthDigit_lt third),
      firstByte_group first second, secondByte_group second third,
      thirdByte_digits third, inductionHypothesis]

section Steps

variable (left : Nat)

theorem decodeFrom_two_pads (rest : List Char) :
    decodeFrom ⟨2, left⟩ 0 ('=' :: '=' :: rest) = some [] :=
  rfl

theorem decodeFrom_one_pad (rest : List Char) :
    decodeFrom ⟨3, left⟩ 0 ('=' :: rest) = some [] :=
  rfl

theorem decodeFrom_digit
    {value : Nat}
    (bound : value < 64)
    (position : GroupPosition)
    (rest : List Char) :
    decodeFrom position 0 (charOf value :: rest) =
      (decodeFrom (position.read value).1 0 rest).map
        ((position.read value).2 ++ ·) := by
  unfold decodeFrom
  rw [if_neg (charOf_ne_padding bound), valueOfAny_charOf bound]
  cases rest with
  | _ =>
    rfl

end Steps

theorem decodeLenient_encode (bytes : List UInt8) :
    decodeLenient (encode bytes) = some bytes := by
  unfold decodeLenient
  fun_induction encode bytes with
  | case1 =>
    rfl
  | case2 first =>
    rw [decodeFrom_digit (firstDigit_lt first),
      decodeFrom_digit (singleDigit_lt first)]
    simp only [GroupPosition.read, decodeFrom_two_pads]
    exact congrArg (fun read => some [read]) (firstByte_single first)
  | case3 first second =>
    rw [decodeFrom_digit (firstDigit_lt first),
      decodeFrom_digit (secondDigit_lt first second),
      decodeFrom_digit (pairDigit_lt second)]
    simp only [GroupPosition.read, decodeFrom_one_pad]
    exact
      congrArg₂ (fun read next => some [read, next])
        (firstByte_group first second) (secondByte_pair second _)
  | case4 first second third rest inductionHypothesis =>
    simp only [List.cons_append, List.nil_append]
    rw [decodeFrom_digit (firstDigit_lt first),
      decodeFrom_digit (secondDigit_lt first second),
      decodeFrom_digit (thirdDigit_lt second third),
      decodeFrom_digit (fourthDigit_lt third)]
    simp only [GroupPosition.read, inductionHypothesis]
    refine
      congrArg₂ (fun read others => some (read :: others))
        (firstByte_group first second) ?_
    exact
      congrArg₂ (fun read next => read :: next :: rest)
        (secondByte_group second third _) (thirdByte_digits third _)

/--
An encoded text is a sequence of digits and less than four padding characters,
whose length is a multiple of four.
-/
theorem encode_shape (bytes : List UInt8) :
    ∃ body pads,
      encode bytes = body ++ List.replicate pads '=' ∧
        pads < 4 ∧
        (body.length + pads) % 4 = 0 ∧
        ∀ char ∈ body, isDigit char = true := by
  fun_induction encode bytes with
  | case1 =>
    exact ⟨[], 0, rfl, by decide, rfl, by simp⟩
  | case2 first =>
    refine ⟨[charOf (first.toNat / 4), charOf (first.toNat % 4 * 16)],
      2, rfl, by decide, by simp, ?_⟩
    simp [isDigit_charOf (firstDigit_lt first),
      isDigit_charOf (singleDigit_lt first)]
  | case3 first second =>
    refine ⟨[charOf (first.toNat / 4),
      charOf (first.toNat % 4 * 16 + second.toNat / 16),
      charOf (second.toNat % 16 * 4)], 1, rfl,
      by decide, by simp, ?_⟩
    simp [isDigit_charOf (firstDigit_lt first),
      isDigit_charOf (secondDigit_lt first second),
      isDigit_charOf (pairDigit_lt second)]
  | case4 first second third rest inductionHypothesis =>
    obtain ⟨body, pads, shape, few, whole, alphabet⟩ :=
      inductionHypothesis
    refine ⟨[charOf (first.toNat / 4),
      charOf (first.toNat % 4 * 16 + second.toNat / 16),
      charOf (second.toNat % 16 * 4 + third.toNat / 64),
      charOf (third.toNat % 64)] ++ body, pads, ?_, few, ?_, ?_⟩
    · rw [shape, List.append_assoc]
    · rw [List.length_append]
      simp only [List.length_cons, List.length_nil]
      omega
    · intro char member
      rw [List.mem_append] at member
      rcases member with group | later
      · simp only [List.mem_cons, List.not_mem_nil, or_false] at group
        rcases group with rfl | rfl | rfl | rfl
        · exact isDigit_charOf (firstDigit_lt first)
        · exact isDigit_charOf (secondDigit_lt first second)
        · exact isDigit_charOf (thirdDigit_lt second third)
        · exact isDigit_charOf (fourthDigit_lt third)
      · exact alphabet char later

end RpaPlatform.Base64
