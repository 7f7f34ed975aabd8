import Mathlib.Algebra.Group.Nat.Defs
import Mathlib.Data.List.Basic

namespace RpaPlatform.Utf8

/-!
# Decoding UTF-8 with replacement

The decoder reads a byte at a time.  Where a byte cannot continue the
character that has been begun, what has been read of it becomes one
replacement character, and the byte begins the next.  What is begun at the end
of the bytes becomes a replacement character as well.
-/

def replacement : Char :=
  Char.ofNat 0xFFFD

/-- A character that has been begun. -/
structure Begun where
  /-- The bits that have been read. -/
  value : Nat
  /-- The continuation bytes after the next one. -/
  owed : Nat
  /-- The least and the greatest next byte. -/
  low : Nat
  high : Nat
  continues : 0x80 ≤ low
  /-- No ASCII character is encoded in more than one byte. -/
  wide : 0x80 ≤ (value * 64 + (low - 0x80)) * 64 ^ owed

/-- What the first byte of a longer character begins. -/
def lead? (byte : Nat) : Option Begun :=
  if isLead : 0xC2 ≤ byte ∧ byte ≤ 0xDF then
    some ⟨byte - 0xC0, 0, 0x80, 0xBF, by decide, by omega⟩
  else if byte = 0xE0 then
    some ⟨0, 1, 0xA0, 0xBF, by decide, by decide⟩
  else if byte = 0xED then
    some ⟨0xD, 1, 0x80, 0x9F, by decide, by decide⟩
  else if isLead : 0xE1 ≤ byte ∧ byte ≤ 0xEF then
    some ⟨byte - 0xE0, 1, 0x80, 0xBF, by decide, by omega⟩
  else if byte = 0xF0 then
    some ⟨0, 2, 0x90, 0xBF, by decide, by decide⟩
  else if isLead : 0xF1 ≤ byte ∧ byte ≤ 0xF3 then
    some ⟨byte - 0xF0, 2, 0x80, 0xBF, by decide, by omega⟩
  else if byte = 0xF4 then
    some ⟨4, 2, 0x80, 0x8F, by decide, by decide⟩
  else
    none

/-- A byte between characters, and what it begins. -/
def start (byte : Nat) : List Char × Option Begun :=
  if byte < 0x80 then
    ([Char.ofNat byte], none)
  else
    match lead? byte with
    | some begun => ([], some begun)
    | none => ([replacement], none)

/-- A byte that continues a character. -/
def Begun.next
    (begun : Begun)
    (byte : Nat)
    (fits : begun.low ≤ byte) : List Char × Option Begun :=
  match owes : begun.owed with
  | 0 => ([Char.ofNat (begun.value * 64 + (byte - 0x80))], none)
  | owed + 1 =>
    ([],
      some
        { value := begun.value * 64 + (byte - 0x80)
          owed
          low := 0x80
          high := 0xBF
          continues := by decide
          wide := by
            have isWide := begun.wide
            rw [owes, Nat.pow_succ', ← Nat.mul_assoc] at isWide
            exact Nat.le_trans isWide
                (Nat.mul_le_mul_right _ (by omega)) })

/-- One byte. -/
def step : Option Begun → Nat → List Char × Option Begun
  | none, byte => start byte
  | some begun, byte =>
    if fits : begun.low ≤ byte ∧ byte ≤ begun.high then
      begun.next byte fits.1
    else
      (replacement :: (start byte).1, (start byte).2)

def finish : Option Begun → List Char
  | none => []
  | some _ => [replacement]

/-- The characters of some bytes, after what has been begun. -/
def decodeFrom (begun : Option Begun) : List UInt8 → List Char
  | [] => finish begun
  | byte :: rest =>
    (step begun byte.toNat).1 ++ decodeFrom (step begun byte.toNat).2 rest

/-- `bytes.decode("utf-8", errors="replace")`. -/
def decode (bytes : List UInt8) : List Char :=
  decodeFrom none bytes

example : decode [0x68, 0xC3, 0xA9, 0x0A] = ['h', 'é', '\n'] := by
  decide

/-- A sequence that is cut short is one replacement, a surrogate is three. -/
example :
    decode [0xF0, 0x9F, 0x98, 0x28, 0xED, 0xA0, 0x80] =
      [replacement, '(', replacement, replacement, replacement] := by
  decide

/-! ### Newlines -/

theorem count_ofNat (value : Nat) :
    [Char.ofNat value].count '\n' = if value = 10 then 1 else 0 := by
  rw [List.count_singleton]
  congr 1
  rw [beq_iff_eq, eq_iff_iff]
  constructor
  · intro same
    by_cases isValid : value.isValidChar
    · have read : Char.ofNat value = Char.ofNatAux value isValid :=
        dif_pos isValid
      exact congrArg Char.toNat (read.symm.trans same)
    · have read : Char.ofNat value = Char.ofNat 0 := dif_neg isValid
      cases read.symm.trans same
  · rintro rfl
    rfl

theorem count_start (byte : Nat) :
    (start byte).1.count '\n' = if byte = 10 then 1 else 0 := by
  unfold start
  split
  · exact count_ofNat byte
  · rename_i notAscii
    rw [if_neg (by omega)]
    split
    · rfl
    · rfl

theorem count_step (begun : Option Begun) (byte : Nat) :
    (step begun byte).1.count '\n' = if byte = 10 then 1 else 0 := by
  cases begun with
  | none =>
    exact count_start byte
  | some begun =>
    unfold step
    dsimp only
    split
    · rename_i fits
      have continues := begun.continues
      rw [if_neg (by omega)]
      unfold Begun.next
      split
      · rename_i owes
        have isWide := begun.wide
        rw [owes] at isWide
        rw [count_ofNat, if_neg (by omega)]
      · rfl
    · rw [List.count_cons_of_ne (by decide), count_start]

theorem count_decodeFrom (begun : Option Begun) (bytes : List UInt8) :
    (decodeFrom begun bytes).count '\n' = bytes.count 10 := by
  induction bytes generalizing begun with
  | nil =>
    cases begun with
    | none =>
      rfl
    | some begun =>
      rfl
  | cons byte rest inductionHypothesis =>
    unfold decodeFrom
    have sameByte : (byte == 10) = decide (byte.toNat = 10) := by
      rw [Bool.eq_iff_iff, beq_iff_eq, decide_eq_true_iff]
      exact UInt8.toNat_inj.symm
    rw [List.count_append, count_step, inductionHypothesis,
      List.count_cons, sameByte, Nat.add_comm]
    simp only [decide_eq_true_eq]

theorem step_ne_nil (begun : Option Begun) (byte : Nat) :
    (step begun byte).1 ++ finish (step begun byte).2 ≠ [] := by
  have startNonempty : (start byte).1 ++ finish (start byte).2 ≠ [] := by
    unfold start
    split
    · exact List.cons_ne_nil _ _
    · split
      · exact List.cons_ne_nil _ _
      · exact List.cons_ne_nil _ _
  cases begun with
  | none =>
    exact startNonempty
  | some begun =>
    unfold step
    dsimp only
    split
    · unfold Begun.next
      split
      · exact List.cons_ne_nil _ _
      · exact List.cons_ne_nil _ _
    · exact List.cons_ne_nil _ _

theorem decodeFrom_ne_nil
    (begun : Option Begun)
    (byte : UInt8)
    (rest : List UInt8) :
    decodeFrom begun (byte :: rest) ≠ [] := by
  induction rest generalizing begun byte with
  | nil =>
    exact step_ne_nil begun byte.toNat
  | cons next rest inductionHypothesis =>
    exact List.append_ne_nil_of_right_ne_nil _ (inductionHypothesis _ next)

theorem step_newline (begun : Option Begun) :
    step begun 10 = (finish begun ++ ['\n'], none) := by
  cases begun with
  | none =>
    rfl
  | some begun =>
    have continues := begun.continues
    unfold step
    dsimp only
    rw [dif_neg (by omega)]
    rfl

theorem decodeFrom_append_newline
    (begun : Option Begun)
    (bytes rest : List UInt8) :
    decodeFrom begun (bytes ++ 10 :: rest) =
      decodeFrom begun (bytes ++ [10]) ++ decode rest := by
  induction bytes generalizing begun with
  | nil =>
    simp only [List.nil_append, decodeFrom]
    rw [show (10 : UInt8).toNat = 10 from rfl, step_newline]
    simp [decode, finish]
  | cons byte bytes inductionHypothesis =>
    simp only [List.cons_append, decodeFrom, inductionHypothesis,
      List.append_assoc]

theorem getLast?_decodeFrom (begun : Option Begun) (bytes : List UInt8) :
    (decodeFrom begun bytes).getLast? = some '\n' ↔
      bytes.getLast? = some 10 := by
  induction bytes generalizing begun with
  | nil =>
    cases begun with
    | none =>
      exact iff_of_false nofun nofun
    | some begun =>
      exact
        iff_of_false (show [replacement].getLast? ≠ some '\n' by decide) nofun
  | cons byte rest inductionHypothesis =>
    cases rest with
    | nil =>
      rw [List.getLast?_singleton, Option.some_inj]
      constructor
      · intro endsLine
        have member :=
          List.count_pos_iff.mpr (List.mem_of_getLast? endsLine)
        rw [count_decodeFrom] at member
        simpa [eq_comm] using List.count_pos_iff.mp member
      · rintro rfl
        unfold decodeFrom
        rw [show (10 : UInt8).toNat = 10 from rfl, step_newline]
        simp [decodeFrom, finish]
    | cons next rest =>
      rw [List.getLast?_cons_cons, ← inductionHypothesis]
      exact
        (congrArg (· = some '\n')
          (List.getLast?_append_of_ne_nil _
            (decodeFrom_ne_nil _ next rest))).to_iff

theorem count_decode (bytes : List UInt8) :
    (decode bytes).count '\n' = bytes.count 10 :=
  count_decodeFrom none bytes

theorem getLast?_decode (bytes : List UInt8) :
    (decode bytes).getLast? = some '\n' ↔ bytes.getLast? = some 10 :=
  getLast?_decodeFrom none bytes

theorem decode_append
    {bytes : List UInt8}
    (endsLine : bytes.getLast? = some 10)
    (rest : List UInt8) :
    decode (bytes ++ rest) = decode bytes ++ decode rest := by
  obtain ⟨start, rfl⟩ := List.getLast?_eq_some_iff.mp endsLine
  rw [List.append_assoc]
  exact decodeFrom_append_newline none start rest

end RpaPlatform.Utf8
