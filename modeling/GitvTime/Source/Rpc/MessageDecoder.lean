import Mathlib.Algebra.Ring.Int.Defs
import Mathlib.Algebra.Ring.Nat
import GitvTime.Support.StreamDecoder

/-!
# Frames of the RPC

`MessageEncoder` and `MessageDecoder` of `netty-rpc-imp`, with the `MessageCodecUtil` of
Kryo, Hessian or Protostuff as a parameter: their `encode` differ only in what serializes
the message. Netty calls `decode` as long as it reads something. An exception of it ends in
`exceptionCaught`, which closes the channel, and a closed channel has Netty decode what is
left of the bytes that came.
-/
namespace GitvTime.Source.Rpc
open GitvTime.Support

variable {μ : Type}

/-- What `MessageCodecUtil.decode` does with a body. -/
inductive Decoded (μ : Type) where
  | message (message : μ)
  | ioException
  | throws

/-- `serialize` is `none` where it throws. -/
structure MessageCodecUtil (μ : Type) where
  serialize : μ → Option (List UInt8)
  decode : List UInt8 → Decoded μ

def messageLength : Nat := 4

/-- `ByteBuf.writeInt`. -/
def writeInt (value : Nat) : List UInt8 :=
  [UInt8.ofNat (value / 2 ^ 24), UInt8.ofNat (value / 2 ^ 16), UInt8.ofNat (value / 2 ^ 8),
    UInt8.ofNat value]

/-- `ByteBuf.readInt`, of four bytes at least. -/
def readInt : List UInt8 → Int
  | b₀ :: b₁ :: b₂ :: b₃ :: _ =>
    let unsigned : Nat := b₀.toNat * 2 ^ 24 + b₁.toNat * 2 ^ 16 + b₂.toNat * 2 ^ 8 + b₃.toNat
    if unsigned < 2 ^ 31 then (unsigned : Int) else (unsigned : Int) - 2 ^ 32
  | _ => 0

theorem readInt_append {bytes : List UInt8} (long : messageLength ≤ bytes.length)
    (more : List UInt8) : readInt (bytes ++ more) = readInt bytes := by
  match bytes, long with
  | _ :: _ :: _ :: _ :: _, _ => rfl

namespace MessageCodecUtil

variable (util : MessageCodecUtil μ)

/-- `encode`. -/
def encode (message : μ) : Option (List UInt8) :=
  (util.serialize message).map fun body => writeInt body.length ++ body

/-- `MessageDecoder.decode`. -/
def read (bytes : List UInt8) : Reads UInt8 μ :=
  if bytes.length < messageLength then .waits
  else
    let length := readInt bytes
    let readable := bytes.drop messageLength
    if (readable.length : Int) < length then .waits
    -- `new byte[messageLength]` throws
    else if length < 0 then .fails readable
    else
      match util.decode (readable.take length.toNat) with
      | .message message => .reads (some message) (readable.drop length.toNat)
      | .ioException => .reads none (readable.drop length.toNat)
      | .throws => .fails (readable.drop length.toNat)

/-- A frame that is read lies whole in the bytes, and more behind it changes nothing. -/
theorem read_cases {bytes : List UInt8} (more : List UInt8) (read : util.read bytes ≠ .waits) :
    (∃ rest, util.read bytes = .fails rest ∧ util.read (bytes ++ more) = .fails (rest ++ more)) ∨
      ∃ message rest, util.read bytes = .reads message rest ∧ rest.length < bytes.length ∧
        util.read (bytes ++ more) = .reads message (rest ++ more) := by
  unfold MessageCodecUtil.read at read ⊢
  by_cases short : bytes.length < messageLength
  · rw [if_pos short] at read
    exact absurd rfl read
  · have long : messageLength ≤ bytes.length := Nat.le_of_not_lt short
    have longer : ¬ (bytes ++ more).length < messageLength := by
      rw [List.length_append]
      omega
    have behind : (bytes ++ more).drop messageLength = bytes.drop messageLength ++ more :=
      List.drop_append_of_le_length long
    rw [if_neg short] at read
    rw [if_neg short, if_neg longer, readInt_append long, behind]
    dsimp only at read ⊢
    by_cases missing : ((bytes.drop messageLength).length : Int) < readInt bytes
    · rw [if_pos missing] at read
      exact absurd rfl read
    · have enough : ¬ ((bytes.drop messageLength ++ more).length : Int) < readInt bytes := by
        rw [List.length_append]
        omega
      rw [if_neg missing, if_neg enough]
      by_cases negative : readInt bytes < 0
      · rw [if_pos negative, if_pos negative]
        exact .inl ⟨_, rfl, rfl⟩
      · have inside : (readInt bytes).toNat ≤ (bytes.drop messageLength).length := by omega
        have fewer : ((bytes.drop messageLength).drop (readInt bytes).toNat).length <
            bytes.length := by
          simp only [List.length_drop, messageLength] at long ⊢
          omega
        rw [if_neg negative, if_neg negative, List.take_append_of_le_length inside,
          List.drop_append_of_le_length inside]
        cases util.decode ((bytes.drop messageLength).take (readInt bytes).toNat) with
        | message message => exact .inr ⟨some message, _, rfl, fewer, rfl⟩
        | ioException => exact .inr ⟨none, _, rfl, fewer, rfl⟩
        | throws => exact .inl ⟨_, rfl, rfl⟩

/-- `MessageDecoder`. -/
def messageDecoder : StreamDecoder UInt8 μ where
  decode := util.read
  shorter := by
    intro bytes message rest reads
    have read : util.read bytes ≠ .waits := by simp [reads]
    rcases util.read_cases [] read with ⟨_, fails, _⟩ | ⟨message', rest', reads', fewer, _⟩
    · cases reads.symm.trans fails
    · cases reads.symm.trans reads'
      exact fewer
  reads_append := by
    intro bytes message rest more reads
    have read : util.read bytes ≠ .waits := by simp [reads]
    rcases util.read_cases more read with ⟨_, fails, _⟩ | ⟨message', rest', reads', _, longer⟩
    · cases reads.symm.trans fails
    · cases reads.symm.trans reads'
      exact longer
  fails_append := by
    intro bytes rest more fails
    have read : util.read bytes ≠ .waits := by simp [fails]
    rcases util.read_cases more read with ⟨rest', fails', longer⟩ | ⟨message', rest', reads', _⟩
    · cases fails.symm.trans fails'
      exact longer
    · cases fails.symm.trans reads'

end MessageCodecUtil

end GitvTime.Source.Rpc
