import RpaPlatform.Utf8

namespace RpaPlatform.Utf8

/-!
# Encoding UTF-8

What is encoded is decoded to the same characters, so that the replacement
character stands for itself alone in the bytes of a text.
-/

/-- `text.encode("utf-8")`. -/
def encode (characters : List Char) : List UInt8 :=
  characters.flatMap String.utf8EncodeChar

/-! ### What has been begun -/

def addBits (value : Nat) (byte : UInt8) : Nat :=
  value * 64 + (byte.toNat - 0x80)

/-- A byte that may continue any character, after the second byte. -/
def IsTail (byte : UInt8) : Prop :=
  0x80 ≤ byte.toNat ∧ byte.toNat ≤ 0xBF

variable {byte : UInt8}

/-- The bytes that are owed end a character. -/
theorem decodeFrom_tails
    {begun : Begun}
    {tails : List UInt8}
    (fits : begun.low ≤ byte.toNat ∧ byte.toNat ≤ begun.high)
    (areTails : ∀ tail ∈ tails, IsTail tail)
    (owes : tails.length = begun.owed)
    (rest : List UInt8) :
    decodeFrom (some begun) (byte :: (tails ++ rest)) =
      Char.ofNat (tails.foldl addBits (addBits begun.value byte)) ::
        decodeFrom none rest := by
  induction tails generalizing begun byte with
  | nil =>
    have continued :
        step (some begun) byte.toNat =
          ([Char.ofNat (addBits begun.value byte)], none) := by
      unfold step
      dsimp only
      rw [dif_pos fits]
      unfold Begun.next
      split
      · rfl
      · rename_i owed isOwed
        rw [isOwed] at owes
        cases owes
    rw [decodeFrom, continued]
    rfl
  | cons tail tails inductionHypothesis =>
    obtain ⟨next, continued, value, owed, low, high⟩ :
        ∃ next : Begun,
          step (some begun) byte.toNat = ([], some next) ∧
            next.value = addBits begun.value byte ∧
            next.owed = tails.length ∧
            next.low = 0x80 ∧
            next.high = 0xBF := by
      unfold step
      dsimp only
      rw [dif_pos fits]
      unfold Begun.next
      split
      · rename_i isOwed
        rw [isOwed] at owes
        cases owes
      · rename_i owed isOwed
        rw [isOwed, List.length_cons] at owes
        exact ⟨_, rfl, rfl, (Nat.succ_inj.mp owes).symm, rfl, rfl⟩
    have tailFits : next.low ≤ tail.toNat ∧ tail.toNat ≤ next.high := by
      rw [low, high]
      exact areTails tail List.mem_cons_self
    rw [decodeFrom, continued, List.nil_append, List.cons_append,
      inductionHypothesis tailFits
        (fun later isLater =>
          areTails later (List.mem_cons_of_mem _ isLater))
        owed.symm,
      value, List.foldl_cons]

theorem decodeFrom_ascii
    (isAscii : byte.toNat < 0x80)
    (rest : List UInt8) :
    decodeFrom none (byte :: rest) =
      Char.ofNat byte.toNat :: decodeFrom none rest := by
  have started : step none byte.toNat = ([Char.ofNat byte.toNat], none) :=
    if_pos isAscii
  rw [decodeFrom, started]
  rfl

theorem decodeFrom_lead
    {begun : Begun}
    (notAscii : 0x80 ≤ byte.toNat)
    (isLead : lead? byte.toNat = some begun)
    (rest : List UInt8) :
    decodeFrom none (byte :: rest) = decodeFrom (some begun) rest := by
  have started : step none byte.toNat = ([], some begun) := by
    change start byte.toNat = _
    rw [start, if_neg (Nat.not_lt.mpr notAscii), isLead]
  rw [decodeFrom, started, List.nil_append]

theorem lead?_two
    {bits : Nat}
    (least : 2 ≤ bits)
    (greatest : bits < 0x20) :
    ∃ begun,
      lead? (bits + 0xC0) = some begun ∧
        begun.value = bits ∧
        begun.owed = 0 ∧
        begun.low = 0x80 ∧
        begun.high = 0xBF := by
  unfold lead?
  rw [dif_pos (by omega)]
  exact ⟨_, rfl, by dsimp only; omega, rfl, rfl, rfl⟩

theorem lead?_three {bits : Nat} (greatest : bits < 0x10) :
    ∃ begun,
      lead? (bits + 0xE0) = some begun ∧
        begun.value = bits ∧
        begun.owed = 1 ∧
        begun.low = (if bits = 0 then 0xA0 else 0x80) ∧
        begun.high = if bits = 0xD then 0x9F else 0xBF := by
  unfold lead?
  rw [dif_neg (by omega)]
  by_cases isLeast : bits = 0
  · subst isLeast
    exact ⟨_, rfl, rfl, rfl, rfl, rfl⟩
  · rw [if_neg (by omega)]
    by_cases isSurrogate : bits = 0xD
    · subst isSurrogate
      exact ⟨_, rfl, rfl, rfl, rfl, rfl⟩
    · rw [if_neg (by omega), dif_pos (by omega), if_neg isLeast,
        if_neg isSurrogate]
      exact ⟨_, rfl, by dsimp only; omega, rfl, rfl, rfl⟩

theorem lead?_four {bits : Nat} (greatest : bits < 5) :
    ∃ begun,
      lead? (bits + 0xF0) = some begun ∧
        begun.value = bits ∧
        begun.owed = 2 ∧
        begun.low = (if bits = 0 then 0x90 else 0x80) ∧
        begun.high = if bits = 4 then 0x8F else 0xBF := by
  unfold lead?
  rw [dif_neg (by omega), if_neg (by omega), if_neg (by omega),
    dif_neg (by omega)]
  by_cases isLeast : bits = 0
  · subst isLeast
    exact ⟨_, rfl, rfl, rfl, rfl, rfl⟩
  · rw [if_neg (by omega)]
    by_cases isLast : bits = 4
    · subst isLast
      exact ⟨_, rfl, rfl, rfl, rfl, rfl⟩
    · rw [dif_pos (by omega), if_neg isLeast, if_neg isLast]
      exact ⟨_, rfl, by dsimp only; omega, rfl, rfl, rfl⟩

/-! ### Round trips -/

theorem toNat_valid (character : Char) :
    character.toNat < 0xD800 ∨
      0xDFFF < character.toNat ∧ character.toNat < 0x110000 :=
  character.valid

theorem ofNat_eq
    {value : Nat}
    {character : Char}
    (same : value = character.toNat) :
    Char.ofNat value = character := by
  rw [same, Char.ofNat_toNat]

theorem toNat_ofNat {value : Nat} (isByte : value < 256) :
    (UInt8.ofNat value).toNat = value := by
  rw [UInt8.toNat_ofNat', Nat.mod_eq_of_lt isByte]

theorem toNat_tail (value : Nat) :
    (UInt8.ofNat (value % 0x40 + 0x80)).toNat = value % 0x40 + 0x80 :=
  toNat_ofNat (by omega)

theorem isTail_tail (value : Nat) :
    IsTail (UInt8.ofNat (value % 0x40 + 0x80)) := by
  unfold IsTail
  rw [toNat_tail]
  omega

/-- A longer character that is encoded is decoded by itself. -/
theorem decodeFrom_long
    {character : Char}
    {lead second : Nat}
    {tails : List Nat}
    {begun : Begun}
    (isLead : lead? lead = some begun)
    (isByte : 0x80 ≤ lead ∧ lead < 0x100)
    (fits :
      begun.low ≤ second % 0x40 + 0x80 ∧ second % 0x40 + 0x80 ≤ begun.high)
    (owes : tails.length = begun.owed)
    (same :
      (second :: tails).foldl
          (fun value bits => value * 64 + bits % 0x40) begun.value =
        character.toNat)
    (rest : List UInt8) :
    decodeFrom none
        (UInt8.ofNat lead ::
          ((second :: tails).map fun bits =>
            UInt8.ofNat (bits % 0x40 + 0x80)) ++ rest) =
      character :: decodeFrom none rest := by
  have leadByte := toNat_ofNat isByte.2
  have addsBits :
      ∀ value bits,
        addBits value (UInt8.ofNat (bits % 0x40 + 0x80)) =
          value * 64 + bits % 0x40 := by
    intro value bits
    unfold addBits
    rw [toNat_tail bits]
    omega
  have areTails :
      ∀ tail ∈ tails.map fun bits => UInt8.ofNat (bits % 0x40 + 0x80),
        IsTail tail := by
    intro tail isTail
    obtain ⟨bits, -, rfl⟩ := List.mem_map.mp isTail
    exact isTail_tail bits
  have owesTails :
      (tails.map fun bits => UInt8.ofNat (bits % 0x40 + 0x80)).length =
        begun.owed := by
    rw [List.length_map, owes]
  have fitsSecond := fits
  rw [← toNat_tail] at fitsSecond
  have begins :
      ∀ later : List UInt8,
        decodeFrom none (UInt8.ofNat lead :: later) =
          decodeFrom (some begun) later :=
    fun later =>
      decodeFrom_lead (leadByte.symm ▸ isByte.1) (leadByte.symm ▸ isLead) later
  rw [List.cons_append, begins, List.map_cons, List.cons_append,
    decodeFrom_tails fitsSecond areTails owesTails, addsBits, List.foldl_map]
  simp only [addsBits]
  exact congrArg (· :: decodeFrom none rest) (ofNat_eq same)

theorem decodeFrom_utf8EncodeChar
    (character : Char)
    (rest : List UInt8) :
    decodeFrom none (String.utf8EncodeChar character ++ rest) =
      character :: decodeFrom none rest := by
  have valid := toNat_valid character
  have isNumber : character.val.toNat = character.toNat := rfl
  unfold String.utf8EncodeChar
  dsimp only
  rw [isNumber]
  generalize isValue : character.toNat = value at valid
  split
  · have sameByte := @toNat_ofNat value (by omega)
    rw [List.singleton_append, decodeFrom_ascii (by omega), sameByte,
      ofNat_eq isValue.symm]
  · split
    · obtain ⟨begun, isLead, bits, owed, low, high⟩ :=
        @lead?_two (value / 64 % 0x20) (by omega) (by omega)
      refine
        @decodeFrom_long character _ value [] begun isLead (by omega)
          (by omega) owed.symm ?_ rest
      rw [List.foldl_cons, List.foldl_nil, bits]
      omega
    · split
      · obtain ⟨begun, isLead, bits, owed, low, high⟩ :=
          @lead?_three (value / 4096 % 0x10) (by omega)
        refine
          @decodeFrom_long character _ (value / 64) [value] begun isLead
            (by omega) ?_ owed.symm ?_ rest
        · rw [low, high]
          split <;> split <;> omega
        · rw [List.foldl_cons, List.foldl_cons, List.foldl_nil, bits]
          omega
      · obtain ⟨begun, isLead, bits, owed, low, high⟩ :=
          @lead?_four (value / 262144 % 0x08) (by omega)
        refine
          @decodeFrom_long character _ (value / 4096)
            [value / 64, value] begun isLead (by omega) ?_ owed.symm ?_ rest
        · rw [low, high]
          split <;> split <;> omega
        · rw [List.foldl_cons, List.foldl_cons, List.foldl_cons,
            List.foldl_nil, bits]
          omega

theorem decode_encode_append
    (characters : List Char)
    (rest : List UInt8) :
    decode (encode characters ++ rest) = characters ++ decode rest := by
  induction characters with
  | nil =>
    rfl
  | cons character characters inductionHypothesis =>
    rw [encode, List.flatMap_cons, List.append_assoc]
    exact
      (decodeFrom_utf8EncodeChar character _).trans
        (congrArg (character :: ·) inductionHypothesis)

theorem decode_encode (characters : List Char) :
    decode (encode characters) = characters := by
  have alone := decode_encode_append characters []
  rwa [List.append_nil, show decode [] = [] from rfl, List.append_nil] at alone

theorem encode_append (first second : List Char) :
    encode (first ++ second) = encode first ++ encode second :=
  List.flatMap_append

end RpaPlatform.Utf8
