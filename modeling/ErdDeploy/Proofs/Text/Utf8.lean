import ErdDeploy.Text.Utf8
import Mathlib

/-!
Texts written as bytes and read back.

A character is a first byte and up to three bytes of six bits each. While the decoder is
inside a character it holds the bits read so far and awaits the others (`Pending.Awaits`);
each byte of an encoded character is one that it awaits, so the character comes out
(`decodeFrom_encodeChar`), and with it every text (`decode_encode`).
-/

namespace ErdDeploy.Utf8

/-- The byte of the last six bits of a number. -/
def continuation (n : Nat) : UInt8 :=
  .ofNat (0x80 + n % 64)

theorem toNat_ofNat_of_small {n : Nat} (small : n < 256) : (UInt8.ofNat n).toNat = n :=
  UInt8.toNat_ofNat_of_lt' small

theorem toNat_continuation (n : Nat) : (continuation n).toNat = 0x80 + n % 64 :=
  toNat_ofNat_of_small (by omega)

/-! ## Inside a character -/

/-- The bytes still to come, `more` of them behind the next one, are those of the last bits of a
number. -/
structure Pending.Awaits (pending : Pending) (more n : Nat) : Prop where
  left : pending.left = more + 1
  value : pending.value = n / 64 ^ (more + 1)
  least : pending.least ≤ 0x80 + n / 64 ^ more % 64
  greatest : 0x80 + n / 64 ^ more % 64 ≤ pending.greatest

section

variable {pending : Pending} {more n position : Nat} {bytes : List UInt8}

theorem Pending.Awaits.accepts (awaits : pending.Awaits more n) :
    pending.accepts (continuation (n / 64 ^ more)) = true := by
  have least := awaits.least
  have greatest := awaits.greatest
  rw [Pending.accepts, toNat_continuation]
  simp [least, greatest]

theorem Pending.Awaits.extended (awaits : pending.Awaits more n) :
    pending.extended (continuation (n / 64 ^ more)) = n / 64 ^ more := by
  have value : pending.value = n / 64 ^ more / 64 := by
    rw [awaits.value, Nat.pow_succ, Nat.div_div_eq_div_mul]
  unfold Pending.extended
  rw [toNat_continuation, value, Nat.add_sub_cancel_left]
  exact Nat.div_add_mod' _ 64

/-- Behind a byte that is not the last, the other bytes are awaited. -/
theorem Pending.Awaits.advance (awaits : pending.Awaits (more + 1) n) :
    (pending.advance (continuation (n / 64 ^ (more + 1)))).Awaits more n where
  left := by rw [Pending.advance, awaits.left]; rfl
  value := awaits.extended
  least := Nat.le_add_right _ _
  greatest := by
    change 0x80 + n / 64 ^ more % 64 ≤ 0xBF
    omega

theorem Pending.Awaits.decodeFrom_more (awaits : pending.Awaits (more + 1) n) :
    decodeFrom position (some pending) (continuation (n / 64 ^ (more + 1)) :: bytes) =
      decodeFrom (position + 1)
        (some (pending.advance (continuation (n / 64 ^ (more + 1))))) bytes := by
  have others : ¬ pending.left ≤ 1 := by
    rw [awaits.left]
    omega
  rw [decodeFrom, awaits.accepts, if_neg others]
  rfl

theorem Pending.Awaits.decodeFrom_last (awaits : pending.Awaits 0 n) :
    decodeFrom position (some pending) (continuation n :: bytes) =
      (decodeFrom (position + 1) none bytes).map (Char.ofNat n :: ·) := by
  have accepts := awaits.accepts
  have extended := awaits.extended
  rw [Nat.pow_zero, Nat.div_one] at accepts extended
  rw [decodeFrom, accepts, extended, if_pos (Nat.le_of_eq awaits.left)]
  rfl

/-- A first byte that announces others. -/
theorem decodeFrom_lead {lead : UInt8} (beyond : 0x80 ≤ lead.toNat)
    (starts : Pending.ofLead? position lead = some pending) :
    decodeFrom position none (lead :: bytes) =
      decodeFrom (position + 1) (some pending) bytes := by
  rw [decodeFrom, if_neg (Nat.not_lt.mpr beyond), starts]

end

/-! ## Whole characters -/

section

variable {n : Nat} (position : Nat) (bytes : List UInt8)

theorem decodeFrom_one (small : n < 0x80) :
    decodeFrom position none (.ofNat n :: bytes) =
      (decodeFrom (position + 1) none bytes).map (Char.ofNat n :: ·) := by
  have byte : (UInt8.ofNat n).toNat = n := toNat_ofNat_of_small (by omega)
  rw [decodeFrom, byte, if_pos small]

theorem decodeFrom_two (least : 0x80 ≤ n) (greatest : n < 0x800) :
    decodeFrom position none (.ofNat (0xC0 + n / 64) :: continuation n :: bytes) =
      (decodeFrom (position + 2) none bytes).map (Char.ofNat n :: ·) := by
  have byte : (UInt8.ofNat (0xC0 + n / 64)).toNat = 0xC0 + n / 64 :=
    toNat_ofNat_of_small (by omega)
  have starts : Pending.ofLead? position (.ofNat (0xC0 + n / 64)) =
      some ⟨position, .ofNat (0xC0 + n / 64), 1, 1, n / 64, 0x80, 0xBF⟩ := by
    simp only [Pending.ofLead?, byte]
    rw [if_pos (by simp; omega), Nat.add_sub_cancel_left]
  rw [decodeFrom_lead (by omega) starts]
  apply Pending.Awaits.decodeFrom_last
  refine ⟨rfl, by rw [Nat.zero_add, Nat.pow_one], Nat.le_add_right _ _, ?_⟩
  change 0x80 + n / 64 ^ 0 % 64 ≤ 0xBF
  omega

/-- The second byte has a range of its own behind two of the first bytes. A number that needs three
bytes keeps the one, and a number that is no surrogate the other. -/
theorem decodeFrom_three (least : 0x800 ≤ n) (greatest : n < 0x10000)
    (character : n < 0xD800 ∨ 0xDFFF < n) :
    decodeFrom position none
        (.ofNat (0xE0 + n / 4096) :: continuation (n / 64) :: continuation n :: bytes) =
      (decodeFrom (position + 3) none bytes).map (Char.ofNat n :: ·) := by
  have byte : (UInt8.ofNat (0xE0 + n / 4096)).toNat = 0xE0 + n / 4096 :=
    toNat_ofNat_of_small (by omega)
  let first : Pending := ⟨position, .ofNat (0xE0 + n / 4096), 1, 2, n / 4096,
    if 0xE0 + n / 4096 = 0xE0 then 0xA0 else 0x80, if 0xE0 + n / 4096 = 0xED then 0x9F else 0xBF⟩
  have starts : Pending.ofLead? position (.ofNat (0xE0 + n / 4096)) = some first := by
    simp only [Pending.ofLead?, byte]
    rw [if_neg (by simp; omega), if_pos (by simp; omega), Nat.add_sub_cancel_left]
  have awaits : first.Awaits 1 n := by
    refine ⟨rfl, rfl, ?_, ?_⟩
    · simp only [first, Nat.pow_one]
      split <;> omega
    · simp only [first, Nat.pow_one]
      split <;> omega
  rw [decodeFrom_lead (by omega) starts]
  exact awaits.decodeFrom_more.trans awaits.advance.decodeFrom_last

theorem decodeFrom_four (least : 0x10000 ≤ n) (greatest : n < 0x110000) :
    decodeFrom position none
        (.ofNat (0xF0 + n / 262144) :: continuation (n / 4096) :: continuation (n / 64) ::
          continuation n :: bytes) =
      (decodeFrom (position + 4) none bytes).map (Char.ofNat n :: ·) := by
  have byte : (UInt8.ofNat (0xF0 + n / 262144)).toNat = 0xF0 + n / 262144 :=
    toNat_ofNat_of_small (by omega)
  let first : Pending := ⟨position, .ofNat (0xF0 + n / 262144), 1, 3, n / 262144,
    if 0xF0 + n / 262144 = 0xF0 then 0x90 else 0x80,
    if 0xF0 + n / 262144 = 0xF4 then 0x8F else 0xBF⟩
  have starts : Pending.ofLead? position (.ofNat (0xF0 + n / 262144)) = some first := by
    simp only [Pending.ofLead?, byte]
    rw [if_neg (by simp; omega), if_neg (by simp; omega), if_pos (by simp; omega),
      Nat.add_sub_cancel_left]
  have awaits : first.Awaits 2 n := by
    refine ⟨rfl, rfl, ?_, ?_⟩
    · simp only [first, show (64 : Nat) ^ 2 = 4096 from rfl]
      split <;> omega
    · simp only [first, show (64 : Nat) ^ 2 = 4096 from rfl]
      split <;> omega
  rw [decodeFrom_lead (by omega) starts]
  exact awaits.decodeFrom_more.trans
    (awaits.advance.decodeFrom_more.trans awaits.advance.advance.decodeFrom_last)

end

/-- The bytes of a character are read as the character. -/
theorem decodeFrom_encodeChar (c : Char) (position : Nat) (bytes : List UInt8) :
    ∃ behind, decodeFrom position none (encodeChar c ++ bytes) =
      (decodeFrom behind none bytes).map (c :: ·) := by
  have valid : c.toNat < 0xD800 ∨ 0xDFFF < c.toNat ∧ c.toNat < 0x110000 := c.valid
  have same : Char.ofNat c.toNat = c := Char.ofNat_toNat c
  unfold encodeChar
  simp only
  split
  · next one => exact ⟨_, same ▸ decodeFrom_one position bytes one⟩
  · split
    · next two => exact ⟨_, same ▸ decodeFrom_two position bytes (by omega) two⟩
    · split
      · next three =>
        exact ⟨_, same ▸ decodeFrom_three position bytes (by omega) three (by omega)⟩
      · exact ⟨_, same ▸ decodeFrom_four position bytes (by omega) (by omega)⟩

/-- The bytes of a text are read as the text. -/
theorem decode_encode (cs : List Char) : decode (encode cs) = .ok cs := by
  have anywhere : ∀ position, decodeFrom position none (encode cs) = .ok cs := by
    induction cs with
    | nil => exact fun _ => rfl
    | cons c cs ih =>
        intro position
        obtain ⟨behind, read⟩ := decodeFrom_encodeChar c position (encode cs)
        rw [encode, List.flatMap_cons, ← encode, read, ih]
        rfl
  exact anywhere 0

end ErdDeploy.Utf8
