import RpaPlatform.Utf8Encoding

namespace RpaPlatform.Percent

/-!
# Percent-encoding

The bytes of a text are kept where they are letters, digits or one of four
marks, and are escaped otherwise.  What is encoded this way has no character
that separates the parts of a URL, and stands for the same text.
-/

/-- The characters that `quote` always keeps: ASCII letters, digits, `-._~`. -/
def isUnreserved (character : Char) : Bool :=
  let code := character.toNat
  (48 ≤ code && code ≤ 57) || (65 ≤ code && code ≤ 90) ||
    (97 ≤ code && code ≤ 122) || code = 45 || code = 46 || code = 95 ||
    code = 126

/-- An upper-case hexadecimal digit. -/
def hexDigit (value : Nat) : Char :=
  if value < 10 then
    Char.ofNat (value + 48)
  else
    Char.ofNat (value + 55)

/-- The value of a hexadecimal digit, of either case. -/
def hexValue? (digit : Char) : Option Nat :=
  let code := digit.toNat
  if 48 ≤ code ∧ code ≤ 57 then
    some (code - 48)
  else if 65 ≤ code ∧ code ≤ 70 then
    some (code - 55)
  else if 97 ≤ code ∧ code ≤ 102 then
    some (code - 87)
  else
    none

/-- One byte, as it is or escaped. -/
def quoteByte (byte : UInt8) : List Char :=
  let character := Char.ofNat byte.toNat
  if isUnreserved character then
    [character]
  else
    ['%', hexDigit (byte.toNat / 16), hexDigit (byte.toNat % 16)]

/-- `quote(text, safe="")`. -/
def quote (text : String) : String :=
  String.ofList ((Utf8.encode text.toList).flatMap quoteByte)

/-- The bytes that a percent-encoded text stands for. -/
def unquoteBytes : List Char → List UInt8
  | [] =>
    []
  | '%' :: high :: low :: rest =>
    match hexValue? high, hexValue? low with
    | some highValue, some lowValue =>
      UInt8.ofNat (highValue * 16 + lowValue) :: unquoteBytes rest
    | _, _ =>
      0x25 :: unquoteBytes (high :: low :: rest)
  | character :: rest =>
    String.utf8EncodeChar character ++ unquoteBytes rest

/-- `unquote(text)`. -/
def unquote (text : String) : String :=
  String.ofList (Utf8.decode (unquoteBytes text.toList))

example : quote "a b/é%" = "a%20b%2F%C3%A9%25" := by
  decide +kernel

example : unquote "a%20b%2f%C3%A9%25%zz" = "a b/é%%zz" := by
  decide +kernel

/-! ### What is encoded -/

/-- Characters that are kept, and escapes. -/
inductive Encoded : List Char → Prop where
  | nil : Encoded []
  | kept {character rest} :
      isUnreserved character = true →
      Encoded rest →
      Encoded (character :: rest)
  | escaped {high low rest} :
      (hexValue? high).isSome = true →
      (hexValue? low).isSome = true →
      Encoded rest →
      Encoded ('%' :: high :: low :: rest)

theorem ascii_of_isUnreserved
    {character : Char}
    (isKept : isUnreserved character = true) :
    character.toNat < 0x80 ∧ character ≠ '%' := by
  have isAscii : character.toNat < 0x80 := by
    simp only [isUnreserved, Bool.or_eq_true, Bool.and_eq_true,
      decide_eq_true_eq] at isKept
    omega
  refine ⟨isAscii, ?_⟩
  rintro rfl
  revert isKept
  decide

theorem hexValue?_hexDigit {value : Nat} (isDigit : value < 16) :
    hexValue? (hexDigit value) = some value := by
  have all : ∀ value : Fin 16, hexValue? (hexDigit value) = some value.val := by
    decide
  exact all ⟨value, isDigit⟩

theorem Encoded.append
    {first second : List Char}
    (isFirst : Encoded first)
    (isSecond : Encoded second) :
    Encoded (first ++ second) := by
  induction isFirst with
  | nil =>
    exact isSecond
  | kept isKept _ inductionHypothesis =>
    exact .kept isKept inductionHypothesis
  | escaped isHigh isLow _ inductionHypothesis =>
    exact .escaped isHigh isLow inductionHypothesis

theorem encoded_quoteByte (byte : UInt8) : Encoded (quoteByte byte) := by
  have isByte := byte.toNat_lt
  unfold quoteByte
  dsimp only
  split
  · rename_i isKept
    exact .kept isKept .nil
  · refine .escaped ?_ ?_ .nil
    · rw [hexValue?_hexDigit (by omega)]
      rfl
    · rw [hexValue?_hexDigit (by omega)]
      rfl

theorem encoded_quote (text : String) : Encoded (quote text).toList := by
  unfold quote
  rw [String.toList_ofList]
  induction Utf8.encode text.toList with
  | nil =>
    exact .nil
  | cons byte rest inductionHypothesis =>
    rw [List.flatMap_cons]
    exact (encoded_quoteByte byte).append inductionHypothesis

theorem isUnreserved_of_hexValue?
    {digit : Char}
    (isDigit : (hexValue? digit).isSome = true) :
    isUnreserved digit = true := by
  simp only [isUnreserved, Bool.or_eq_true, Bool.and_eq_true, decide_eq_true_eq]
  unfold hexValue? at isDigit
  dsimp only at isDigit
  split at isDigit
  · omega
  · split at isDigit
    · omega
    · split at isDigit
      · omega
      · cases isDigit

theorem Encoded.mem
    {text : List Char}
    (encoded : Encoded text)
    {character : Char}
    (member : character ∈ text) :
    isUnreserved character = true ∨ character = '%' := by
  induction encoded with
  | nil =>
    cases member
  | kept isKept _ inductionHypothesis =>
    rcases List.mem_cons.mp member with rfl | inRest
    · exact .inl isKept
    · exact inductionHypothesis inRest
  | escaped isHigh isLow _ inductionHypothesis =>
    simp only [List.mem_cons] at member
    rcases member with rfl | rfl | rfl | inRest
    · exact .inr rfl
    · exact .inl (isUnreserved_of_hexValue? isHigh)
    · exact .inl (isUnreserved_of_hexValue? isLow)
    · exact inductionHypothesis inRest

/-! ### Round trips -/

theorem unquoteBytes_quoteByte (byte : UInt8) (rest : List Char) :
    unquoteBytes (quoteByte byte ++ rest) = byte :: unquoteBytes rest := by
  have isByte := byte.toNat_lt
  unfold quoteByte
  dsimp only
  split
  · rename_i isKept
    obtain ⟨isAscii, notPercent⟩ := ascii_of_isUnreserved isKept
    have sameNumber : (Char.ofNat byte.toNat).toNat = byte.toNat := by
      unfold Char.ofNat
      rw [dif_pos (.inl (by omega))]
      rfl
    rw [sameNumber] at isAscii
    have sameBytes :
        String.utf8EncodeChar (Char.ofNat byte.toNat) = [byte] := by
      unfold String.utf8EncodeChar
      dsimp only
      rw [show (Char.ofNat byte.toNat).val.toNat = byte.toNat from
          sameNumber, if_pos (by omega), UInt8.ofNat_toNat]
    rw [List.singleton_append, unquoteBytes, sameBytes]
    · rfl
    · intro _ _ _ isPercent
      exact absurd isPercent notPercent
  · have high := @hexValue?_hexDigit (byte.toNat / 16) (by omega)
    have low := @hexValue?_hexDigit (byte.toNat % 16) (by omega)
    simp only [List.cons_append, List.nil_append, unquoteBytes, high, low]
    rw [Nat.div_add_mod', UInt8.ofNat_toNat]

theorem unquoteBytes_flatMap (bytes : List UInt8) :
    unquoteBytes (bytes.flatMap quoteByte) = bytes := by
  induction bytes with
  | nil =>
    rfl
  | cons byte rest inductionHypothesis =>
    rw [List.flatMap_cons, unquoteBytes_quoteByte, inductionHypothesis]

@[simp]
theorem unquote_quote (text : String) : unquote (quote text) = text := by
  unfold unquote quote
  rw [String.toList_ofList, unquoteBytes_flatMap, Utf8.decode_encode,
    String.ofList_toList]

end RpaPlatform.Percent
