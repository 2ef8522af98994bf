import QueryDesk.EventStream.Decoder
import Mathlib.Data.List.Basic

/-!
# Where the chunks of a body end

A body may be cut into chunks anywhere: the decoder completes the same frames and ends in the same
state as if the body came at once (`pushAll_flatten`).  This needs that no complete line waits in
the buffer, which holds of every state that calls of the decoder lead to (`drained_of_reachable`).
After the end of a body the decoder is a new one (`finish_fst`).
-/

namespace QueryDesk.EventStream.Decoder

open QueryDesk.Text

/-- The states that calls of the decoder lead to. -/
inductive Reachable : Decoder → Prop
  | new : Reachable new
  | push {d : Decoder} (chunk : Bytes) : Reachable d → Reachable (d.push chunk).1
  | finish {d : Decoder} : Reachable d → Reachable d.finish.1

/-- No complete line waits in the buffer. -/
def Drained (d : Decoder) : Prop :=
  lineFeed ∉ d.buffer

/-! ## The buffer -/

/-- Dispatching does not look at the buffer. -/
theorem dispatch_with_buffer (d : Decoder) (buffer : Bytes) :
    { d with buffer := buffer }.dispatch =
      ({ d.dispatch.1 with buffer := buffer }, d.dispatch.2) := by
  unfold dispatch
  split <;> simp_all

/-- Reading a line does not look at the buffer. -/
theorem readLine_with_buffer (d : Decoder) (buffer : Bytes) (line : List Char) :
    { d with buffer := buffer }.readLine line =
      ({ (d.readLine line).1 with buffer := buffer }, (d.readLine line).2) := by
  unfold readLine
  split
  · exact dispatch_with_buffer d buffer
  · rfl
  · dsimp only
    split
    · rfl
    · split <;> rfl

theorem drain_of_drained {d : Decoder} (drained : d.Drained) : d.drain = (d, []) := by
  have none_found : d.buffer.idxOf? lineFeed = none := List.idxOf?_eq_none_iff.2 drained
  rw [drain]
  split
  · rfl
  · rename_i found
    rw [none_found] at found
    cases found

/-- The first line of a buffer is read, and what follows it is read from the state after it. -/
theorem drain_of_idxOf? {d : Decoder} {i : Nat} (first : d.buffer.idxOf? lineFeed = some i) :
    d.drain =
      let read := { d with buffer := d.buffer.drop (i + 1) }.readLine (lineText (d.buffer.take i))
      (read.1.drain.1, read.2.toList ++ read.1.drain.2) := by
  rw [drain]
  split
  · rename_i found
    rw [first] at found
    cases found
  · rename_i j found
    rw [first] at found
    cases found
    rfl

theorem drained_drain (d : Decoder) : d.drain.1.Drained := by
  fun_induction drain d with
  | case1 d none_found => exact List.idxOf?_eq_none_iff.1 none_found
  | case2 d i first read drained ih => exact ih

theorem drained_push (d : Decoder) (chunk : Bytes) : (d.push chunk).1.Drained :=
  drained_drain _

/-- What comes later does not change where the first line ends. -/
theorem idxOf?_append {α : Type} [BEq α] [LawfulBEq α] {xs : List α} {x : α} {i : Nat}
    (first : xs.idxOf? x = some i) (ys : List α) : (xs ++ ys).idxOf? x = some i := by
  obtain ⟨inside, here, before⟩ := List.idxOf?_eq_some_iff.1 first
  refine List.idxOf?_eq_some_iff.2 ⟨by simp; omega, ?_, ?_⟩
  · rw [List.getElem_append_left inside]
    exact here
  · intro j hj
    rw [List.getElem_append_left (by omega)]
    exact before j hj

/-- Lines may be read before more octets come: the rest is read from the state after them. -/
theorem push_eq_drain_push (d : Decoder) (more : Bytes) :
    d.push more = ((d.drain.1.push more).1, d.drain.2 ++ (d.drain.1.push more).2) := by
  fun_induction drain d with
  | case1 d none_found => rfl
  | case2 d i first read drained ih =>
    obtain ⟨inside, -, -⟩ := List.idxOf?_eq_some_iff.1 first
    have whole : { d with buffer := d.buffer ++ more }.drain =
        ((read.1.push more).1, read.2.toList ++ (read.1.push more).2) := by
      have taken : (d.buffer ++ more).take i = d.buffer.take i :=
        List.take_append_of_le_length (by omega)
      have dropped : (d.buffer ++ more).drop (i + 1) = d.buffer.drop (i + 1) ++ more :=
        List.drop_append_of_le_length (by omega)
      have buffered : read.1.buffer = d.buffer.drop (i + 1) := readLine_buffer _ _
      rw [drain_of_idxOf? (idxOf?_append first more)]
      simp only [taken, dropped]
      rw [push, buffered]
      simp only [read, readLine_with_buffer d (d.buffer.drop (i + 1)),
        readLine_with_buffer d (d.buffer.drop (i + 1) ++ more)]
    rw [push, whole, ih]
    simp only [drained, List.append_assoc]

/-! ## Chunks -/

/-- Two chunks are read like the one that they make up. -/
theorem push_append (d : Decoder) (chunk more : Bytes) :
    d.push (chunk ++ more) =
      (((d.push chunk).1.push more).1, (d.push chunk).2 ++ ((d.push chunk).1.push more).2) := by
  have cut := push_eq_drain_push { d with buffer := d.buffer ++ chunk } more
  simp only [push, List.append_assoc] at cut ⊢
  exact cut

/-- However a body is cut into chunks, it is read like the whole body. -/
theorem pushAll_eq_push {d : Decoder} (drained : d.Drained) (chunks : List Bytes) :
    d.pushAll chunks = d.push chunks.flatten := by
  induction chunks generalizing d with
  | nil =>
    rw [pushAll, List.flatten_nil, push, List.append_nil]
    exact (drain_of_drained drained).symm
  | cons chunk rest ih =>
    have later := ih (drained_push d chunk)
    simp only [pushAll, List.flatten_cons, push_append, later]

/-! ## The end of a body -/

theorem dispatch_fst (d : Decoder) : d.dispatch.1 = { d with name := none, data := [] } := by
  unfold dispatch
  split <;> rfl

/-- A line that completes a frame leaves no event being collected. -/
theorem readLine_of_some {d : Decoder} {line : List Char} {frame : Frame}
    (completes : (d.readLine line).2 = some frame) :
    (d.readLine line).1 = { d with name := none, data := [] } := by
  unfold readLine at completes ⊢
  split at completes
  · exact dispatch_fst d
  · cases completes
  · dsimp only at completes
    split at completes
    · cases completes
    · split at completes <;> cases completes

/-- After the end of a body the decoder is a new one. -/
theorem finish_fst (d : Decoder) : d.finish.1 = new := by
  unfold finish
  split
  · rename_i empty
    rw [dispatch_fst, List.isEmpty_iff.1 empty]
    rfl
  · dsimp only
    split
    · rename_i d' frame read
      have completes := congrArg Prod.snd read
      have state := congrArg Prod.fst read
      dsimp only at completes state ⊢
      rw [← state, readLine_of_some completes]
      rfl
    · rename_i d' read
      have buffered := readLine_buffer { d with buffer := [] }
        ((Utf8.lossy d.buffer).toList.reverse.dropWhile (· == '\r')).reverse
      rw [read] at buffered
      rw [dispatch_fst, buffered]
      rfl

theorem drained_of_reachable {d : Decoder} (reachable : d.Reachable) : d.Drained := by
  cases reachable with
  | new => exact List.not_mem_nil
  | push chunk _ => exact drained_push _ chunk
  | finish _ =>
    rw [finish_fst]
    exact List.not_mem_nil

/-- Chunk boundaries do not matter.  From every state that calls of the decoder lead to, and
    however a body is cut into chunks, the same frames are completed as by the whole body, the
    state is the same and so is what the end of the body answers.  The decoder is then a new one,
    so that it reads whatever comes later as a new one does. -/
theorem pushAll_flatten {d : Decoder} (reachable : d.Reachable) (chunks : List Bytes) :
    d.pushAll chunks = d.push chunks.flatten ∧
      (d.pushAll chunks).1.finish = (d.push chunks.flatten).1.finish ∧
      (d.pushAll chunks).1.finish.1 = new := by
  have same := pushAll_eq_push (drained_of_reachable reachable) chunks
  refine ⟨same, ?_, finish_fst _⟩
  rw [same]

/-- A decoder that has read one octet of a character with two. -/
def midCharacter : Decoder :=
  (new.push (Utf8.encode "event: note\r\ndata: caf" ++ [0xC3])).1

/-- The character and both line ends are cut, and the frame is complete. -/
theorem midCharacter_pushAll :
    midCharacter.Reachable ∧
      midCharacter.pushAll [[0xA9, 0x0D], [], [0x0A, 0x0D], [0x0A]] =
        midCharacter.push [0xA9, 0x0D, 0x0A, 0x0D, 0x0A] ∧
      (midCharacter.push [0xA9, 0x0D, 0x0A, 0x0D, 0x0A]).2 = [.event "note" "café"] := by
  have reachable : midCharacter.Reachable := .push _ .new
  have cut := pushAll_flatten reachable [[0xA9, 0x0D], [], [0x0A, 0x0D], [0x0A]]
  exact ⟨reachable, cut.1, by decide +kernel⟩

end QueryDesk.EventStream.Decoder
