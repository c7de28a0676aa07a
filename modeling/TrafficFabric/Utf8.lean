import Mathlib.Algebra.Ring.Nat
import Mathlib.Tactic.Common
import TrafficFabric.Text

/-!
# UTF-8

`is_valid_utf8` of `src/bytes.cpp`.  A text is accepted exactly when it is a
sequence of encoded Unicode scalar values: `Char` is the type of the scalar
values and `String.utf8EncodeChar` encodes one of them.
-/

namespace TrafficFabric

variable {byte : UInt8} {rest later tail : Bytes}
  {codePoint result bits : UInt32} {value continuation : Nat}

/-! ## The validator -/

/-- The lead byte of a sequence: the bits it contributes and the number of
continuation bytes it announces. -/
def utf8Lead (byte : UInt8) : Option (UInt32 × Nat) :=
  if byte ≤ 0x7F then some (byte.toUInt32, 0)
  else if 0xC2 ≤ byte ∧ byte ≤ 0xDF then some ((byte &&& 0x1F).toUInt32, 1)
  else if 0xE0 ≤ byte ∧ byte ≤ 0xEF then some ((byte &&& 0x0F).toUInt32, 2)
  else if 0xF0 ≤ byte ∧ byte ≤ 0xF4 then some ((byte &&& 0x07).toUInt32, 3)
  else none

/-- The loop over the continuation bytes. -/
def utf8Continue (codePoint : UInt32) : Bytes → Option UInt32
  | [] => some codePoint
  | next :: rest =>
      if next &&& 0xC0 ≠ 0x80 then none
      else
        utf8Continue ((codePoint <<< 6) ||| (next &&& 0x3F).toUInt32) rest

/-- Overlong forms, surrogates and code points out of range. -/
def utf8Rejects (codePoint : UInt32) (continuation : Nat) : Bool :=
  (continuation = 2 ∧ codePoint < 0x800) ∨
    (continuation = 3 ∧ codePoint < 0x10000) ∨
    (0xD800 ≤ codePoint ∧ codePoint ≤ 0xDFFF) ∨ 0x10FFFF < codePoint

/-- One round of the loop: what follows a well-formed sequence. -/
def utf8Step (byte : UInt8) (rest : Bytes) : Option Bytes := do
  let (bits, continuation) ← utf8Lead byte
  -- a truncated sequence
  if rest.length < continuation then none
  else
    let codePoint ← utf8Continue bits (rest.take continuation)
    if utf8Rejects codePoint continuation then none
    else some (rest.drop continuation)

theorem length_of_utf8Step
    (stepped : utf8Step byte rest = some later) :
    later.length ≤ rest.length := by
  simp only [utf8Step, Option.bind_eq_bind, Option.bind_eq_some_iff] at stepped
  obtain ⟨⟨bits, continuation⟩, _, stepped⟩ := stepped
  dsimp only at stepped
  split at stepped
  · cases stepped
  obtain ⟨codePoint, _, stepped⟩ := Option.bind_eq_some_iff.mp stepped
  split at stepped
  · cases stepped
  · cases stepped
    rw [List.length_drop]
    exact Nat.sub_le _ _

/-- `is_valid_utf8`. -/
def isValidUtf8 : Bytes → Bool
  | [] => true
  | byte :: rest =>
      match _stepped : utf8Step byte rest with
      | none => false
      | some later => isValidUtf8 later
termination_by data => data.length
decreasing_by
  have shorter := length_of_utf8Step _stepped
  exact Nat.lt_succ_of_le shorter

/-! ## The bits of a sequence -/

theorem continuation_iff (next : UInt8) :
    next &&& 0xC0 = 0x80 ↔ 128 ≤ next.toNat ∧ next.toNat < 192 := by
  have masked :
      ∀ byte < 256, (byte &&& 192 = 128) ↔ 128 ≤ byte ∧ byte < 192 := by
    decide +kernel
  rw [← UInt8.toNat_inj, UInt8.toNat_and]
  exact masked next.toNat next.toNat_lt

theorem toNat_appended
    (fits : codePoint.toNat < 2 ^ 26) (next : UInt8) :
    ((codePoint <<< 6) ||| (next &&& 0x3F).toUInt32).toNat =
      codePoint.toNat * 64 + next.toNat % 64 := by
  have low : (next &&& 0x3F).toNat = next.toNat % 64 := by
    rw [UInt8.toNat_and]
    exact Nat.and_two_pow_sub_one_eq_mod next.toNat 6
  have high : (codePoint <<< 6).toNat = codePoint.toNat <<< 6 := by
    rw [UInt32.toNat_shiftLeft]
    change codePoint.toNat <<< 6 % 2 ^ 32 = _
    rw [Nat.shiftLeft_eq]
    omega
  rw [UInt32.toNat_or, high, UInt8.toNat_toUInt32, low,
    ← Nat.shiftLeft_add_eq_or_of_lt (Nat.mod_lt _ (by decide)),
    Nat.shiftLeft_eq]

/-- One turn of the loop takes a continuation byte and shifts its six bits
in. -/
theorem utf8Continue_cons
    {next : UInt8} :
    utf8Continue codePoint (next :: rest) = some result ↔
      (128 ≤ next.toNat ∧ next.toNat < 192) ∧
        utf8Continue ((codePoint <<< 6) ||| (next &&& 0x3F).toUInt32) rest =
          some result := by
  rw [utf8Continue]
  split
  · rename_i wrong
    rw [ne_eq, continuation_iff] at wrong
    exact ⟨nofun, fun right => absurd right.1 wrong⟩
  · rename_i right
    rw [not_not, continuation_iff] at right
    exact ⟨fun continued => ⟨right, continued⟩, fun both => both.2⟩

/-- What a successful loop over the continuation bytes has computed. -/
theorem utf8Continue_iff
    (fits : (bits.toNat + 1) * 64 ^ tail.length ≤ 2 ^ 32) :
    utf8Continue bits tail = some result ↔
      (∀ next ∈ tail, 128 ≤ next.toNat ∧ next.toNat < 192) ∧
        result.toNat =
          tail.foldl (fun value next => value * 64 + next.toNat % 64)
            bits.toNat := by
  induction tail generalizing bits with
  | nil =>
      rw [utf8Continue, Option.some.injEq, List.foldl_nil, UInt32.toNat_inj,
        eq_comm]
      exact (and_iff_right (List.forall_mem_nil _)).symm
  | cons next tail hypothesis =>
      have wide : (bits.toNat + 1) * 64 * 64 ^ tail.length ≤ 2 ^ 32 := by
        rw [List.length_cons, Nat.pow_succ, Nat.mul_comm (64 ^ _) 64,
          ← Nat.mul_assoc] at fits
        exact fits
      have small : bits.toNat < 2 ^ 26 := by
        have first : (bits.toNat + 1) * 64 ≤ 2 ^ 32 :=
          Nat.le_trans (Nat.le_mul_of_pos_right _ (Nat.pow_pos (by decide))) wide
        omega
      have joined := toNat_appended small next
      rw [utf8Continue_cons, List.foldl_cons, List.forall_mem_cons, ← joined]
      refine (and_congr_right (fun _ => hypothesis ?_)).trans and_assoc.symm
      refine Nat.le_trans (Nat.mul_le_mul_right _ ?_) wide
      omega

/-! ## Encoded scalar values -/

/-- The bytes that encode a value, by the length of the sequence. -/
def Utf8Sequence (value : Nat) : Bytes → Prop
  | [first] => value < 0x80 ∧ first.toNat = value
  | [first, second] =>
      (0x80 ≤ value ∧ value < 0x800) ∧
        first.toNat = 192 + value / 64 ∧ second.toNat = 128 + value % 64
  | [first, second, third] =>
      (0x800 ≤ value ∧ value < 0x10000) ∧
        first.toNat = 224 + value / 4096 ∧
        second.toNat = 128 + value / 64 % 64 ∧
        third.toNat = 128 + value % 64
  | [first, second, third, fourth] =>
      (0x10000 ≤ value ∧ value < 0x110000) ∧
        first.toNat = 240 + value / 262144 ∧
        second.toNat = 128 + value / 4096 % 64 ∧
        third.toNat = 128 + value / 64 % 64 ∧
        fourth.toNat = 128 + value % 64
  | _ => False

theorem utf8EncodeChar_sequence (character : Char) :
    Utf8Sequence character.val.toNat (String.utf8EncodeChar character) := by
  have range : character.val.toNat < 0x110000 := by
    rcases character.valid with low | ⟨_, high⟩
    · exact Nat.lt_trans low (by decide)
    · exact high
  unfold String.utf8EncodeChar
  dsimp only
  split
  · exact ⟨by omega, by rw [UInt8.toNat_ofNat']; omega⟩
  split
  · refine ⟨by omega, ?_, ?_⟩ <;> rw [UInt8.toNat_ofNat'] <;> omega
  split
  · refine ⟨by omega, ?_, ?_, ?_⟩ <;> rw [UInt8.toNat_ofNat'] <;> omega
  · refine ⟨by omega, ?_, ?_, ?_, ?_⟩ <;> rw [UInt8.toNat_ofNat'] <;> omega

/-- A value has one encoding. -/
theorem Utf8Sequence.unique
    {left right : Bytes} (first : Utf8Sequence value left)
    (second : Utf8Sequence value right) : left = right := by
  unfold Utf8Sequence at first second
  split at first <;> split at second <;>
    first
    | exact absurd first id
    | exact absurd second id
    | omega
    | skip
  all_goals
    simp only [List.cons.injEq, ← UInt8.toNat_inj, and_true]
    omega

theorem toNat_masked (byte : UInt8) (width : Nat) (mask : UInt8)
    (low : mask.toNat = 2 ^ width - 1) :
    (byte &&& mask).toUInt32.toNat = byte.toNat % 2 ^ width := by
  rw [UInt8.toNat_toUInt32, UInt8.toNat_and, low,
    Nat.and_two_pow_sub_one_eq_mod]

/-- The lead bytes by the length of what they announce. -/
theorem utf8Lead_iff :
    utf8Lead byte = some (bits, continuation) ↔
      (continuation = 0 ∧ byte.toNat < 128 ∧ bits.toNat = byte.toNat) ∨
        (continuation = 1 ∧ (194 ≤ byte.toNat ∧ byte.toNat < 224) ∧
          bits.toNat = byte.toNat % 32) ∨
        (continuation = 2 ∧ (224 ≤ byte.toNat ∧ byte.toNat < 240) ∧
          bits.toNat = byte.toNat % 16) ∨
        (continuation = 3 ∧ (240 ≤ byte.toNat ∧ byte.toNat < 245) ∧
          bits.toNat = byte.toNat % 8) := by
  have five := toNat_masked byte 5 0x1F rfl
  have four := toNat_masked byte 4 0x0F rfl
  have three := toNat_masked byte 3 0x07 rfl
  have plain : byte.toUInt32.toNat = byte.toNat := UInt8.toNat_toUInt32 byte
  unfold utf8Lead
  simp only [UInt8.le_iff_toNat_le, UInt8.reduceToNat]
  split
  · rw [Option.some.injEq, Prod.mk.injEq, ← UInt32.toNat_inj, plain]
    omega
  split
  · rw [Option.some.injEq, Prod.mk.injEq, ← UInt32.toNat_inj, five]
    omega
  split
  · rw [Option.some.injEq, Prod.mk.injEq, ← UInt32.toNat_inj, four]
    omega
  split
  · rw [Option.some.injEq, Prod.mk.injEq, ← UInt32.toNat_inj, three]
    omega
  · refine ⟨nofun, ?_⟩
    omega

theorem utf8Rejects_iff :
    utf8Rejects codePoint continuation = false ↔
      ¬ (continuation = 2 ∧ codePoint.toNat < 0x800) ∧
        ¬ (continuation = 3 ∧ codePoint.toNat < 0x10000) ∧
        codePoint.toNat.isValidChar := by
  unfold utf8Rejects Nat.isValidChar
  rw [decide_eq_false_iff_not]
  simp only [UInt32.le_iff_toNat_le, UInt32.lt_iff_toNat_lt,
    UInt32.reduceToNat]
  omega

/-- A sequence of continuation bytes, by the number of them that its lead byte
announces. -/
theorem Utf8Sequence.of_lead
    {bits : Nat}
    (lead :
      (tail.length = 0 ∧ byte.toNat < 128 ∧ bits = byte.toNat) ∨
        (tail.length = 1 ∧ (194 ≤ byte.toNat ∧ byte.toNat < 224) ∧
          bits = byte.toNat % 32) ∨
        (tail.length = 2 ∧ (224 ≤ byte.toNat ∧ byte.toNat < 240) ∧
          bits = byte.toNat % 16) ∨
        (tail.length = 3 ∧ (240 ≤ byte.toNat ∧ byte.toNat < 245) ∧
          bits = byte.toNat % 8))
    (within : ∀ next ∈ tail, 128 ≤ next.toNat ∧ next.toNat < 192)
    (computed :
      value =
        tail.foldl (fun value next => value * 64 + next.toNat % 64) bits)
    (short : ¬ (tail.length = 2 ∧ value < 0x800))
    (long : ¬ (tail.length = 3 ∧ value < 0x10000))
    (range : value < 0x110000) : Utf8Sequence value (byte :: tail) := by
  rcases lead with
    ⟨length, lead, same⟩ | ⟨length, lead, same⟩ | ⟨length, lead, same⟩ |
      ⟨length, lead, same⟩
  · obtain rfl := List.length_eq_zero_iff.mp length
    rw [List.foldl_nil] at computed
    exact ⟨by omega, by omega⟩
  · obtain ⟨second, rfl⟩ := List.length_eq_one_iff.mp length
    rw [List.foldl_cons, List.foldl_nil] at computed
    have last := within second List.mem_cons_self
    exact ⟨by omega, by omega, by omega⟩
  · obtain ⟨second, third, rfl⟩ := List.length_eq_two.mp length
    rw [List.foldl_cons, List.foldl_cons, List.foldl_nil] at computed
    simp only [List.forall_mem_cons] at within
    have lowest := fun small => short ⟨rfl, small⟩
    exact ⟨by omega, by omega, by omega, by omega⟩
  · obtain ⟨second, third, fourth, rfl⟩ := List.length_eq_three.mp length
    rw [List.foldl_cons, List.foldl_cons, List.foldl_cons, List.foldl_nil]
      at computed
    simp only [List.forall_mem_cons] at within
    have lowest := fun small => long ⟨rfl, small⟩
    exact ⟨by omega, by omega, by omega, by omega, by omega⟩

/-- What a round accepts is the encoding of a scalar value. -/
theorem utf8Lead_sequence
    (lead : utf8Lead byte = some (bits, tail.length))
    (continued : utf8Continue bits tail = some codePoint)
    (accepted : utf8Rejects codePoint tail.length = false) :
    Utf8Sequence codePoint.toNat (byte :: tail) ∧
      codePoint.toNat.isValidChar := by
  rw [utf8Lead_iff] at lead
  obtain ⟨short, long, valid⟩ := utf8Rejects_iff.mp accepted
  have fits : (bits.toNat + 1) * 64 ^ tail.length ≤ 2 ^ 32 := by
    rcases lead with lead | lead | lead | lead <;> rw [lead.1] <;> omega
  obtain ⟨within, value⟩ := (utf8Continue_iff fits).mp continued
  have range : codePoint.toNat < 0x110000 := by
    unfold Nat.isValidChar at valid
    omega
  exact ⟨.of_lead lead within value short long range, valid⟩

theorem exists_bits {value : Nat} (fits : value < 2 ^ 32) :
    ∃ bits : UInt32, bits.toNat = value :=
  ⟨UInt32.ofNat value, UInt32.toNat_ofNat_of_lt' fits⟩

/-- Every encoding of a scalar value is accepted. -/
theorem Utf8Sequence.accepted
    (sequence : Utf8Sequence codePoint.toNat (byte :: tail))
    (valid : codePoint.toNat.isValidChar) :
    ∃ bits, utf8Lead byte = some (bits, tail.length) ∧
      utf8Continue bits tail = some codePoint ∧
      utf8Rejects codePoint tail.length = false := by
  rcases tail with _ | ⟨second, _ | ⟨third, _ | ⟨fourth, _ | ⟨_, _⟩⟩⟩⟩
  · obtain ⟨small, same⟩ := sequence
    exact ⟨codePoint, utf8Lead_iff.mpr (.inl ⟨rfl, by omega, same.symm⟩), rfl,
      utf8Rejects_iff.mpr ⟨nofun, nofun, valid⟩⟩
  · obtain ⟨range, first, last⟩ := sequence
    obtain ⟨bits, same⟩ :=
      @exists_bits (codePoint.toNat / 64) (by omega)
    refine ⟨bits, utf8Lead_iff.mpr
      (.inr (.inl ⟨rfl, by omega, by omega⟩)), (utf8Continue_iff ?_).mpr ?_,
      utf8Rejects_iff.mpr ⟨nofun, nofun, valid⟩⟩
    · rw [show [second].length = 1 from rfl]
      omega
    · simp only [List.forall_mem_cons, List.foldl_cons, List.foldl_nil]
      exact ⟨⟨by omega, nofun⟩, by omega⟩
  · obtain ⟨range, first, middle, last⟩ := sequence
    obtain ⟨bits, same⟩ :=
      @exists_bits (codePoint.toNat / 4096) (by omega)
    refine ⟨bits, utf8Lead_iff.mpr
      (.inr (.inr (.inl ⟨rfl, by omega, by omega⟩))),
      (utf8Continue_iff ?_).mpr ?_,
      utf8Rejects_iff.mpr ⟨by omega, nofun, valid⟩⟩
    · rw [show [second, third].length = 2 from rfl]
      omega
    · simp only [List.forall_mem_cons, List.foldl_cons, List.foldl_nil]
      exact ⟨⟨by omega, by omega, nofun⟩, by omega⟩
  · obtain ⟨range, first, upper, lower, last⟩ := sequence
    obtain ⟨bits, same⟩ :=
      @exists_bits (codePoint.toNat / 262144) (by omega)
    refine ⟨bits, utf8Lead_iff.mpr
      (.inr (.inr (.inr ⟨rfl, by omega, by omega⟩))),
      (utf8Continue_iff ?_).mpr ?_,
      utf8Rejects_iff.mpr ⟨nofun, by omega, valid⟩⟩
    · rw [show [second, third, fourth].length = 3 from rfl]
      omega
    · simp only [List.forall_mem_cons, List.foldl_cons, List.foldl_nil]
      exact ⟨⟨by omega, by omega, by omega, nofun⟩, by omega⟩
  · exact sequence.elim

/-! ## Whole texts -/

/-- One round consumes the encoding of one scalar value. -/
theorem utf8Step_iff :
    utf8Step byte rest = some later ↔
      ∃ character : Char,
        byte :: rest = String.utf8EncodeChar character ++ later := by
  simp only [utf8Step, Option.bind_eq_bind, Option.bind_eq_some_iff]
  constructor
  · rintro ⟨⟨bits, continuation⟩, lead, stepped⟩
    dsimp only at stepped
    split at stepped
    · cases stepped
    rename_i enough
    obtain ⟨codePoint, continued, stepped⟩ :=
      Option.bind_eq_some_iff.mp stepped
    split at stepped
    · cases stepped
    rename_i accepted
    cases stepped
    have length : (rest.take continuation).length = continuation :=
      List.length_take_of_le (Nat.not_lt.mp enough)
    rw [← length] at lead
    obtain ⟨sequence, valid⟩ := utf8Lead_sequence lead continued (by
      rw [length]
      exact Bool.eq_false_iff.mpr accepted)
    refine ⟨⟨codePoint, valid⟩, ?_⟩
    rw [(utf8EncodeChar_sequence ⟨codePoint, valid⟩).unique sequence,
      List.cons_append, List.take_append_drop]
  · rintro ⟨character, same⟩
    have sequence := utf8EncodeChar_sequence character
    cases encoded : String.utf8EncodeChar character with
    | nil =>
        exact absurd encoded String.utf8EncodeChar_ne_nil
    | cons _ tail =>
        rw [encoded] at same sequence
        rw [List.cons_append] at same
        obtain ⟨rfl, rfl⟩ := List.cons.inj same
        obtain ⟨bits, lead, continued, accepted⟩ :=
          sequence.accepted character.valid
        refine ⟨(bits, tail.length), lead, ?_⟩
        dsimp only
        have enough : ¬ (tail ++ later).length < tail.length := by
          rw [List.length_append]
          omega
        rw [if_neg enough, List.take_left, List.drop_left, continued,
          Option.bind_some, accepted]
        rfl

theorem isValidUtf8_of_step
    (stepped : utf8Step byte rest = some later) :
    isValidUtf8 (byte :: rest) = isValidUtf8 later := by
  rw [isValidUtf8]
  split
  · rename_i refused
    cases stepped.symm.trans refused
  · rename_i reached known
    cases stepped.symm.trans known
    rfl

/-- `is_valid_utf8` accepts exactly the concatenations of encoded Unicode
scalar values. -/
theorem utf8_validation_is_exact (data : Bytes) :
    isValidUtf8 data = true ↔
      ∃ characters : List Char,
        data = characters.flatMap String.utf8EncodeChar := by
  constructor
  · intro accepted
    fun_induction isValidUtf8 data with
    | case1 =>
        exact ⟨[], rfl⟩
    | case2 byte rest stepped =>
        cases accepted
    | case3 byte rest later stepped hypothesis =>
        obtain ⟨character, same⟩ := utf8Step_iff.mp stepped
        obtain ⟨characters, others⟩ := hypothesis accepted
        refine ⟨character :: characters, ?_⟩
        rw [same, others, List.flatMap_cons]
  · rintro ⟨characters, rfl⟩
    induction characters with
    | nil =>
        rw [List.flatMap_nil, isValidUtf8]
    | cons character _ hypothesis =>
        rw [List.flatMap_cons]
        cases encoded : String.utf8EncodeChar character with
        | nil =>
            exact absurd encoded String.utf8EncodeChar_ne_nil
        | cons =>
            rw [List.cons_append, isValidUtf8_of_step (utf8Step_iff.mpr
              ⟨character, by rw [encoded, List.cons_append]⟩)]
            exact hypothesis

end TrafficFabric
