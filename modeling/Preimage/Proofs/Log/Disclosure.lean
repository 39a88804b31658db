import Preimage.Log.Trace
import Preimage.Proofs.Log.Redaction
import Preimage.Proofs.Outcome.Diagnosis

/-! What the log gives away. Its lines are told by sizes, codes and names and by the ends of
digests, so that two runs that agree on these leave the same log. -/
namespace Preimage.Log
open Wire
variable {digest digest' : Bytes}

/-- Two digests that cannot be told apart where only their ends are shown. -/
structure SameEnds (digest digest' : Bytes) : Prop where
  length : digest.length = digest'.length
  front : digest.take 5 = digest'.take 5
  back : digest.drop (digest.length - 3) = digest'.drop (digest'.length - 3)

theorem SameEnds.shownDigest_eq (ends : SameEnds digest digest') (long : 10 < digest.length) :
    shownDigest digest = shownDigest digest' := by
  have long' : 10 < digest'.length := ends.length ▸ long
  have filled : digest ≠ [] := List.ne_nil_of_length_pos (by omega)
  have filled' : digest' ≠ [] := List.ne_nil_of_length_pos (by omega)
  rw [shownDigest, shownDigest, if_neg filled, if_neg filled', if_neg (by omega),
    if_neg (by omega), ends.front, ends.back]

def skippedLine (number : UInt32) (wireType : WireType) (size : Nat) : String :=
  "DEBUG [codec] Skipped unknown field | " ++
    " ".intercalate [s!"field={number}", s!"wire_type={wireType.code}", s!"field_len={size}"]

theorem Entry.render_of_filled {entry : Entry} (filled : entry.fields ≠ []) :
    entry.render = s!"{entry.level.name} [{entry.source}] {entry.message}" ++ " | " ++
      " ".intercalate (entry.fields.map fun field => s!"{field.1}={field.2}") :=
  if_neg (by simpa using filled)

theorem render_skippedField (number : UInt32) (wireType : WireType) (size : Nat) :
    (Event.skippedField number wireType size).entry.render =
      skippedLine number wireType size := by
  have head : toString (Level.name .debug) ++ " [" ++ toString "codec" ++ "] " ++
      toString "Skipped unknown field" ++ " | " = "DEBUG [codec] Skipped unknown field | " := by
    decide +kernel
  rw [Entry.render_of_filled (List.cons_ne_nil _ _)]
  exact congrArg (· ++ _) head

theorem Logger.render_congr (logger : Logger) {events events' : List Event}
    (alike : events.map Event.entry = events'.map Event.entry) :
    logger.render events = logger.render events' := by
  rw [render_eq, render_eq, alike]

/-- Events for debugging are written together or not at all. -/
theorem Logger.render_of_debug (logger : Logger) {events : List Event}
    (quiet : ∀ event ∈ events, event.heading.level = .debug) :
    logger.render events =
      if logger.debug then events.map fun event => event.entry.render else [] := by
  have level : ∀ entry ∈ events.map Event.entry, entry.level = .debug := by
    intro entry member
    obtain ⟨event, here, rfl⟩ := List.mem_map.1 member
    exact quiet event here
  rw [render_eq]
  cases enabled : logger.debug with
  | true =>
    rw [List.filter_eq_self.2 fun entry member => by simp [shows, level entry member, enabled],
      List.map_map]
    rfl
  | false =>
    rw [List.filter_eq_nil_iff.2 fun entry member => by simp [shows, level entry member, enabled]]
    rfl

end Preimage.Log

namespace Preimage.Decoder
open Wire Outcome Log
variable {decoder : Decoder} {bytes : Bytes} {records : List Record} {next : Cursor}
  {fault? : Option DecodeError}

def skipped (record : Record) : Event :=
  .skippedField record.number record.wireType record.raw.length

/-- Every record of another field is reported, also those in front of a fault, and no other. -/
theorem events_of_records (within : decoder.oversize? bytes.length = none)
    (admitted : ∀ record ∈ records, record.Admitted)
    (passed : (Cursor.ofBytes bytes).Passes (records.flatMap Record.raw) next)
    (stops : Part.Stops next fault?) :
    decoder.events bytes = (Record.foreign records).map skipped := by
  have each (part : Part) : part.event? = part.unknown?.map fun field =>
      .skippedField field.number field.wireType field.raw.length := by
    cases part <;> rfl
  have retained : (records.filterMap Record.part?).filterMap Part.unknown? =
      (Record.foreign records).map Record.toUnknown := unknown_ofParts .retain admitted
  simp only [events, within, Part.readAll_of_records admitted passed stops, funext each]
  rw [← List.map_filterMap, retained, List.map_map]
  rfl

theorem render_events (logger : Logger) (within : decoder.oversize? bytes.length = none) :
    ∃ start records,
      IsGreatest {size | size ≤ bytes.length ∧
        Accepts { policy := decoder.policy } (bytes.take size)} start ∧
      Message (bytes.take start) records ∧
      logger.render (decoder.events bytes) = if logger.debug then
        (Record.foreign records).map fun record =>
          skippedLine record.number record.wireType record.raw.length
        else [] := by
  obtain ⟨records, next, fault?, admitted, passed, stops⟩ :=
    Part.exists_records (Cursor.ofBytes bytes)
  have quiet : ∀ event ∈ (Record.foreign records).map skipped, event.heading.level = .debug := by
    intro event member
    obtain ⟨record, -, rfl⟩ := List.mem_map.1 member
    rfl
  refine ⟨next.offset, records, isGreatest_accepted admitted passed stops,
    message_take admitted passed, ?_⟩
  rw [events_of_records within admitted passed stops, logger.render_of_debug quiet, List.map_map]
  simp only [Function.comp_def, skipped, render_skippedField]

theorem events_of_oversize {fault : DecodeError}
    (large : decoder.oversize? bytes.length = some fault) : decoder.events bytes = [] := by
  simp only [events, large]

end Preimage.Decoder

namespace Preimage.Compiler
open Log
variable {Input Input' : Type} {compiler : Compiler Input} {compiler' : Compiler Input'}
  {input : Input} {input' : Input'} {data data' : Bytes}

/-- Two pre-images that cannot be told apart by name, size and the ends of their digests. -/
structure Alike (compiler : Compiler Input) (compiler' : Compiler Input') (data data' : Bytes) :
    Prop where
  chain : compiler.chain = compiler'.chain
  algorithm : compiler.algorithm = compiler'.algorithm
  filled : data ≠ []
  size : data.length = data'.length
  ends : SameEnds (compiler.algorithm.digest data) (compiler'.algorithm.digest data')

theorem events_of_preimage (built : compiler.preimage input = .ok data) (filled : data ≠ []) :
    compiler.events input = [.preimageBuilt compiler.chain compiler.algorithm data.length
      (compiler.algorithm.digest data)] := by
  have some : ¬ data.isEmpty = true := mt List.isEmpty_iff.1 filled
  simp only [events, compile, built, if_neg some]
  rfl

theorem render_events_eq (logger : Logger) (alike : Alike compiler compiler' data data')
    (built : compiler.preimage input = .ok data)
    (built' : compiler'.preimage input' = .ok data') :
    logger.render (compiler.events input) = logger.render (compiler'.events input') := by
  have filled' : data' ≠ [] := by
    rw [← List.length_pos_iff, ← alike.size]
    exact List.length_pos_iff.2 alike.filled
  have shown := alike.ends.shownDigest_eq
    (by simp [compiler.algorithm.length_digest, Digest.Algorithm.size])
  rw [events_of_preimage built alike.filled, events_of_preimage built' filled']
  refine logger.render_congr ?_
  simp only [List.map_cons, List.map_nil, Event.entry, Event.heading, Event.shown, alike.chain,
    alike.size, shown]
  rw [alike.algorithm]

end Preimage.Compiler

namespace Preimage.Outcome
open Log
variable {outcome outcome' : Outcome}

structure Alike (outcome outcome' : Outcome) : Prop where
  errorCode : outcome.errorCode = outcome'.errorCode
  size : outcome.data.length = outcome'.data.length
  ends : SameEnds outcome.dataHash outcome'.dataHash

namespace Alike

theorem validate_eq (alike : Alike outcome outcome') : outcome.validate = outcome'.validate := by
  have empty {bytes bytes' : Bytes} (same : bytes.length = bytes'.length) :
      bytes.isEmpty = bytes'.isEmpty := by
    rw [Bool.eq_iff_iff, List.isEmpty_iff_length_eq_zero, List.isEmpty_iff_length_eq_zero, same]
  simp only [validate, alike.errorCode, empty alike.ends.length, empty alike.size]

theorem validateTraced_events_eq (alike : Alike outcome outcome') :
    outcome.validateTraced.events = outcome'.validateTraced.events := by
  simp only [validateTraced, alike.validate_eq, alike.size, alike.ends.length]

theorem verdictTraced_events_eq (alike : Alike outcome outcome') :
    outcome.verdictTraced.events = outcome'.verdictTraced.events := by
  have same : outcome.status = outcome'.status := congrArg Status.ofCode alike.errorCode
  simp only [verdictTraced]
  rw [same, alike.validateTraced_events_eq]

end Alike

/-- Only a digest of the right length is reported, if it is not the one that was computed. -/
theorem verifyTraced_events (outcome : Outcome) (algorithm : Digest.Algorithm) :
    (outcome.verifyTraced algorithm).events =
      if outcome.dataHash.length = algorithm.size ∧ outcome.verify algorithm ≠ .ok () then
        [.digestMismatch algorithm outcome.dataHash]
      else [] := by
  simp only [verifyTraced, verify]
  by_cases other : outcome.dataHash.length ≠ algorithm.size
  · simp [other]
  · by_cases mismatch : algorithm.digest outcome.data ≠ outcome.dataHash
    · simp [not_not.1 other, mismatch]
    · simp [not_not.1 other, mismatch]

theorem Alike.render_verifyTraced_eq (logger : Logger) (alike : Alike outcome outcome')
    {algorithm : Digest.Algorithm}
    (verdict : outcome.verify algorithm = .ok () ↔ outcome'.verify algorithm = .ok ()) :
    logger.render (outcome.verifyTraced algorithm).events =
      logger.render (outcome'.verifyTraced algorithm).events := by
  simp only [verifyTraced_events, ← alike.ends.length, ne_eq, verdict]
  split
  · rename_i reported
    have long : 10 < outcome.dataHash.length := by rw [reported.1, Digest.Algorithm.size]; decide
    refine logger.render_congr ?_
    simp only [List.map_cons, List.map_nil, Event.entry, Event.heading, Event.shown,
      alike.ends.shownDigest_eq long]
  · rfl

end Preimage.Outcome

namespace Preimage.Log
open Wire Outcome

/-- Decoding writes a line of field, layout and size for each record that it passed over, and
nothing else. What is written of a pre-image and of an outcome is the same for any two that are
alike, and of a comparison with the digest if both end in the same way. -/
theorem Logger.discloses_no_contents (logger : Logger) :
    (∀ event : Event, ∃ entry, event.compose? = some entry) ∧
    (∀ (decoder : Decoder) (bytes : Bytes) (fault : DecodeError),
      decoder.oversize? bytes.length = some fault → logger.render (decoder.events bytes) = []) ∧
    (∀ (decoder : Decoder) (bytes : Bytes), decoder.oversize? bytes.length = none →
      ∃ start records,
        IsGreatest {size | size ≤ bytes.length ∧
          Decoder.Accepts { policy := decoder.policy } (bytes.take size)} start ∧
        Message (bytes.take start) records ∧
        logger.render (decoder.events bytes) = if logger.debug then
          (Record.foreign records).map fun record =>
            skippedLine record.number record.wireType record.raw.length
          else []) ∧
    (∀ (Input Input' : Type) (compiler : Compiler Input) (compiler' : Compiler Input')
      (input : Input) (input' : Input') (data data' : Bytes),
      compiler.Alike compiler' data data' →
      compiler.preimage input = .ok data → compiler'.preimage input' = .ok data' →
      logger.render (compiler.events input) = logger.render (compiler'.events input')) ∧
    ∀ outcome outcome' : Outcome, outcome.Alike outcome' →
      logger.render outcome.validateTraced.events = logger.render outcome'.validateTraced.events ∧
      logger.render outcome.verdictTraced.events = logger.render outcome'.verdictTraced.events ∧
      ∀ algorithm, (outcome.verify algorithm = .ok () ↔ outcome'.verify algorithm = .ok ()) →
        logger.render (outcome.verifyTraced algorithm).events =
          logger.render (outcome'.verifyTraced algorithm).events := by
  refine ⟨fun event => ⟨_, event.compose?_eq⟩, ?_, ?_, ?_, ?_⟩
  · intro decoder bytes fault large
    rw [Decoder.events_of_oversize large]
    rfl
  · intro decoder bytes within
    exact Decoder.render_events logger within
  · intro Input Input' compiler compiler' input input' data data' alike built built'
    exact Compiler.render_events_eq logger alike built built'
  · intro outcome outcome' alike
    refine ⟨?_, ?_, fun algorithm verdict => alike.render_verifyTraced_eq logger verdict⟩
    · rw [alike.validateTraced_events_eq]
    · rw [alike.verdictTraced_events_eq]

/-- A message over the limit, a record in front of a fault, one pre-image by two chains of the same
name, and two digests that both fail and differ between their ends. -/
theorem Logger.discloses_no_contents_mismatched :
    ({ debug := true } : Logger).render ((Decoder.bounded 1).events [0x50, 0x2a]) = [] ∧
    (∃ start records, Message ([0x50, 0x2a, 0x0a, 0x05].take start) records ∧
      ({ debug := true } : Logger).render (Decoder.plain.events [0x50, 0x2a, 0x0a, 0x05]) =
        (Record.foreign records).map fun record =>
          skippedLine record.number record.wireType record.raw.length) ∧
    ({ debug := true } : Logger).render
        (Compiler.events ⟨"memo", .sha256, fun count => .ok (List.replicate count 0x61)⟩ 3) =
      ({ debug := true } : Logger).render
        (Compiler.events ⟨"memo", .sha256, fun text => .ok (Bytes.ofText text)⟩ "aaa") ∧
    ({ debug := false } : Logger).render (Outcome.verifyTraced
        (.success (List.replicate 32 0) [0x01]) .sha256).events =
      ({ debug := false } : Logger).render (Outcome.verifyTraced (.success
        (List.replicate 5 0 ++ List.replicate 24 1 ++ List.replicate 3 0) [0x02]) .sha256).events := by
  obtain ⟨-, refused, messages, compilers, -⟩ := Logger.discloses_no_contents { debug := true }
  obtain ⟨-, -, -, -, outcomes⟩ := Logger.discloses_no_contents { debug := false }
  refine ⟨refused _ _ (.tooLarge 2 1) rfl, ?_, ?_, ?_⟩
  · obtain ⟨start, records, -, message, lines⟩ :=
      messages Decoder.plain [0x50, 0x2a, 0x0a, 0x05] rfl
    exact ⟨start, records, message, lines⟩
  · have same : Bytes.ofText "aaa" = List.replicate 3 0x61 := by decide +kernel
    refine compilers _ _ _ _ _ _ _ _ ⟨rfl, rfl, ?_, ?_, ?_⟩ rfl rfl
    · decide
    · rw [same]
    · rw [same]
      exact ⟨rfl, rfl, rfl⟩
  · have alike : Outcome.Alike (.success (List.replicate 32 0) [0x01]) (.success
        (List.replicate 5 0 ++ List.replicate 24 1 ++ List.replicate 3 0) [0x02]) :=
      ⟨rfl, rfl, by decide, by decide, by decide⟩
    exact (outcomes _ _ alike).2.2 .sha256 (iff_of_false (by decide +kernel) (by decide +kernel))

end Preimage.Log
