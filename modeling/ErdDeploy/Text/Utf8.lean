import ErdDeploy.Text.Quoted

/-!
UTF-8: texts as bytes.

The decoder reads byte by byte. Inside a character it knows how many bytes are still to come and
in which range the next one has to be; the range leaves out overlong forms, surrogates and what
lies beyond the last code point. The first byte that does not fit is reported together with the
bytes of the character before it.
-/

namespace ErdDeploy.Utf8

/-! ## Encoding -/

/-- The bytes of a character. -/
def encodeChar (c : Char) : List UInt8 :=
  let n := c.toNat
  let last : UInt8 := .ofNat (0x80 + n % 64)
  let third : UInt8 := .ofNat (0x80 + n / 64 % 64)
  let second : UInt8 := .ofNat (0x80 + n / 4096 % 64)
  if n < 0x80 then [.ofNat n]
  else if n < 0x800 then [.ofNat (0xC0 + n / 64), last]
  else if n < 0x10000 then [.ofNat (0xE0 + n / 4096), third, last]
  else [.ofNat (0xF0 + n / 262144), second, third, last]

/-- The bytes of a text. -/
def encode (cs : List Char) : List UInt8 :=
  cs.flatMap encodeChar

/-! ## Decoding -/

/-- Why bytes are no text. -/
inductive FaultKind
  /-- No character begins with the byte. -/
  | badStart
  /-- The character does not go on as it has to. -/
  | badContinuation
  /-- The bytes end inside a character. -/
  | truncated
  deriving DecidableEq, Repr

/-- The first bytes that are no character. -/
structure Fault where
  kind : FaultKind
  position : Nat
  /-- How many bytes are reported. -/
  size : Nat
  /-- The first of them. -/
  lead : UInt8
  deriving DecidableEq, Repr

/-- The reason in words. -/
def FaultKind.reason : FaultKind → String
  | .badStart => "invalid start byte"
  | .badContinuation => "invalid continuation byte"
  | .truncated => "unexpected end of data"

/-- What is reported of bytes that are no text. -/
def Fault.message (fault : Fault) : String :=
  let place :=
    if fault.size = 1 then
      "byte 0x" ++ String.ofList (Text.hexDigits 2 fault.lead.toNat) ++
        s!" in position {fault.position}"
    else s!"bytes in position {fault.position}-{fault.position + fault.size - 1}"
  "'utf-8' codec can't decode " ++ place ++ ": " ++ fault.kind.reason

/-- A character that is not complete yet. -/
structure Pending where
  start : Nat
  lead : UInt8
  /-- How many of its bytes were read. -/
  size : Nat
  /-- How many are still to come. -/
  left : Nat
  /-- The bits read so far. -/
  value : Nat
  /-- The range of the next byte. -/
  least : Nat
  greatest : Nat

namespace Pending

/-- The character that begins with a byte, if it has further bytes. -/
def ofLead? (start : Nat) (lead : UInt8) : Option Pending :=
  let n := lead.toNat
  if 0xC2 ≤ n && n ≤ 0xDF then some ⟨start, lead, 1, 1, n - 0xC0, 0x80, 0xBF⟩
  else if 0xE0 ≤ n && n ≤ 0xEF then
    some ⟨start, lead, 1, 2, n - 0xE0, if n = 0xE0 then 0xA0 else 0x80,
      if n = 0xED then 0x9F else 0xBF⟩
  else if 0xF0 ≤ n && n ≤ 0xF4 then
    some ⟨start, lead, 1, 3, n - 0xF0, if n = 0xF0 then 0x90 else 0x80,
      if n = 0xF4 then 0x8F else 0xBF⟩
  else none

/-- Whether a byte continues the character. -/
def accepts (pending : Pending) (byte : UInt8) : Bool :=
  pending.least ≤ byte.toNat && byte.toNat ≤ pending.greatest

/-- The bits with those of a further byte. -/
def extended (pending : Pending) (byte : UInt8) : Nat :=
  pending.value * 64 + (byte.toNat - 0x80)

/-- The character after a further byte that is not the last. -/
def advance (pending : Pending) (byte : UInt8) : Pending :=
  { pending with
    size := pending.size + 1, left := pending.left - 1, value := pending.extended byte
    least := 0x80, greatest := 0xBF }

/-- The fault of a character that is not completed. -/
def fault (pending : Pending) (kind : FaultKind) : Fault :=
  ⟨kind, pending.start, pending.size, pending.lead⟩

end Pending

/-- Decode bytes that begin at a position, possibly inside a character. -/
def decodeFrom (position : Nat) (pending : Option Pending) :
    List UInt8 → Except Fault (List Char)
  | [] =>
    match pending with
    | none => .ok []
    | some pending => .error (pending.fault .truncated)
  | byte :: bytes =>
    match pending with
    | none =>
      if byte.toNat < 0x80 then
        (decodeFrom (position + 1) none bytes).map (Char.ofNat byte.toNat :: ·)
      else
        match Pending.ofLead? position byte with
        | some pending => decodeFrom (position + 1) (some pending) bytes
        | none => .error ⟨.badStart, position, 1, byte⟩
    | some pending =>
      if !pending.accepts byte then .error (pending.fault .badContinuation)
      else if pending.left ≤ 1 then
        (decodeFrom (position + 1) none bytes).map (Char.ofNat (pending.extended byte) :: ·)
      else decodeFrom (position + 1) (some (pending.advance byte)) bytes

/-- The text of some bytes. -/
def decode (bytes : List UInt8) : Except Fault (List Char) :=
  decodeFrom 0 none bytes

end ErdDeploy.Utf8
