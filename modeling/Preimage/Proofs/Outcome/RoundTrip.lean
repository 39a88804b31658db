import Preimage.Compiler
import Preimage.Outcome.View
import Preimage.Proofs.Outcome.WrittenForm

/-! An outcome is read back from its written form, whatever way it came about, since what is
retained are always whole records of other fields. -/
namespace Preimage.Outcome
open Wire

/-- The ways in which an outcome comes about. -/
inductive Producible : Outcome → Prop where
  | made (dataHash data : Bytes) (errorCode : Int32) (error : String) :
      Producible { dataHash, data, errorCode, error }
  | success (dataHash data : Bytes) : Producible (.success dataHash data)
  | failure (status : Status) (error : String) : Producible (.failure status error)
  | blank : Producible {}
  | compiled {Input : Type} (compiler : Compiler Input) (input : Input) :
      Producible (compiler.compile input)
  | viewed (view : View) : Producible (.ofView view)
  | decoded {decoder : Decoder} {bytes : Bytes} {outcome : Outcome}
      (accepted : decoder.decode bytes = .ok outcome) : Producible outcome

variable {outcome : Outcome} {decoder : Decoder} {bytes : Bytes}

theorem unknown_compile {Input : Type} (compiler : Compiler Input) (input : Input) :
    (compiler.compile input).unknown = [] := by
  simp only [Compiler.compile]
  split
  · split <;> rfl
  · rfl

theorem exists_keeps_of_decode (accepted : decoder.decode bytes = .ok outcome) :
    ∃ kept, outcome.Keeps kept := by
  obtain ⟨records, _, _, unknown⟩ :=
    Decoder.decode_ok_iff_tells.1 (Decoder.decode_without_limit accepted)
  cases policy : decoder.policy with
  | discard => exact ⟨[], keeps_nil (by rw [unknown, policy, unknownOf])⟩
  | retain => exact ⟨_, keeps_of_retain (by rw [unknown, policy])⟩

theorem sized_of_decode (accepted : decoder.decode bytes = .ok outcome) : outcome.Sized := by
  obtain ⟨records, _, told, _⟩ :=
    Decoder.decode_ok_iff_tells.1 (Decoder.decode_without_limit accepted)
  exact told.sized

/-- The invariant behind every way. -/
theorem Producible.exists_keeps (produced : Producible outcome) :
    ∃ kept, outcome.Keeps kept := by
  cases produced with
  | made | success | failure | blank | viewed => exact ⟨[], keeps_nil rfl⟩
  | compiled compiler input => exact ⟨[], keeps_nil (unknown_compile compiler input)⟩
  | decoded accepted => exact exists_keeps_of_decode accepted

end Preimage.Outcome

namespace Preimage.Decoder
open Outcome
variable {outcome : Outcome} {decoder : Decoder} {bytes : Bytes} {count : Nat}

/-- One stage of a relay: what is accepted is written again, and passed on. -/
def hop (decoder : Decoder) (bytes : Bytes) : Except Wire.DecodeError Bytes :=
  (decoder.decode bytes).map Outcome.encode

def hops (decoder : Decoder) : Nat → Bytes → Except Wire.DecodeError Bytes
  | 0, bytes => .ok bytes
  | count + 1, bytes => decoder.hop bytes >>= decoder.hops count

theorem hops_of_fixed (fixed : decoder.hop bytes = .ok bytes) :
    decoder.hops count bytes = .ok bytes := by
  induction count with
  | zero => rfl
  | succ count ih =>
    rw [hops, fixed]
    exact ih

theorem relay_encode (produced : Producible outcome) (sized : outcome.Sized) :
    relay.decode outcome.encode = .ok outcome := by
  obtain ⟨kept, keeps⟩ := produced.exists_keeps
  exact decode_encode_of_keeps .retain sized keeps

theorem hops_encode (produced : Producible outcome) (sized : outcome.Sized) (count : Nat) :
    relay.hops count outcome.encode = .ok outcome.encode := by
  refine hops_of_fixed ?_
  rw [hop, relay_encode produced sized]
  rfl

/-- After any first stage, the stages of a relay have nothing left to change. -/
theorem hop_hops (first : Decoder) (bytes : Bytes) (count : Nat) :
    (first.hop bytes >>= relay.hops count) = first.hop bytes := by
  cases accepted : first.decode bytes with
  | error fault =>
    -- What the first stage refuses never reaches the others.
    simp only [hop, accepted]
    rfl
  | ok outcome =>
    simp only [hop, accepted]
    exact hops_encode (.decoded accepted) (sized_of_decode accepted) count

end Preimage.Decoder

namespace Preimage.Outcome
variable {outcome : Outcome}

/-- A decoder that does not retain reads the outcome without what was retained. A relay of any
length passes on as it is whatever any decoder at its head has let through. -/
theorem decode_encode (produced : Producible outcome) (sized : outcome.Sized) :
    Decoder.relay.decode outcome.encode = .ok outcome ∧
      Decoder.plain.decode outcome.encode = .ok { outcome with unknown := [] } ∧
      (∀ count, Decoder.relay.hops count outcome.encode = .ok outcome.encode) ∧
      ∀ (first : Decoder) (bytes : Bytes) (count : Nat),
        (first.hop bytes >>= Decoder.relay.hops count) = first.hop bytes := by
  obtain ⟨kept, keeps⟩ := produced.exists_keeps
  exact ⟨Decoder.relay_encode produced sized, decode_encode_of_keeps .discard sized keeps,
    Decoder.hops_encode produced sized, Decoder.hop_hops⟩

/-- A negative code, and a retained key with a byte more than it needs. -/
theorem decode_encode_retained :
    Producible { errorCode := -1, unknown := [⟨9, .varint, [0xc8, 0x00, 0x07]⟩] } ∧
      Decoder.relay.decode
          (encode { errorCode := -1, unknown := [⟨9, .varint, [0xc8, 0x00, 0x07]⟩] }) =
        .ok { errorCode := -1, unknown := [⟨9, .varint, [0xc8, 0x00, 0x07]⟩] } := by
  have accepted : Decoder.relay.decode
      [0xc8, 0x00, 0x07, 0x18, 0xff, 0xff, 0xff, 0xff, 0xff, 0xff, 0xff, 0xff, 0xff, 0x01] =
        .ok { errorCode := -1, unknown := [⟨9, .varint, [0xc8, 0x00, 0x07]⟩] } := by
    decide +kernel
  exact ⟨.decoded accepted, (decode_encode (.decoded accepted) ⟨by decide, by decide, by decide⟩).1⟩

end Preimage.Outcome
