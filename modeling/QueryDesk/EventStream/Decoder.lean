import QueryDesk.EventStream.Frame

/-!
# Decoding event streams

A chunk of the body joins what has been read and not used yet; then the lines that are complete are
taken off the front, one after another.  A chunk may end anywhere, inside a character or between a
carriage return and its line feed: what no line feed has ended stays in the buffer.  Lines are read
as UTF-8, leniently.

A line that is empty dispatches the event collected so far, one that starts with a colon is a
comment and dropped, and every other one is a field: its name up to the first colon, its value
after it, without one leading space.  `finish` treats what is left of the body as a last line and
dispatches.
-/

namespace QueryDesk.EventStream

open QueryDesk.Text

/-- What has been read: the octets of the unfinished line, and the name and the data lines of the
    event being collected. -/
structure Decoder where
  buffer : Bytes
  name : Option String
  data : List String
deriving DecidableEq, Repr

namespace Decoder

/-- Nothing read yet. -/
def new : Decoder := ⟨[], none, []⟩

/-- Ends the event being collected: it is a frame if it has a name or data. -/
def dispatch (d : Decoder) : Decoder × Option Frame :=
  match d.name, d.data with
  | none, [] => ({ d with name := none, data := [] }, none)
  | name, data =>
    ({ d with name := none, data := [] },
      some (.event (name.getD "message") ("\n".intercalate data)))

/-- The name and the value of a field. -/
def splitField (line : List Char) : List Char × List Char :=
  match line.span (· != ':') with
  | (field, ':' :: ' ' :: value) => (field, value)
  | (field, ':' :: value) => (field, value)
  | (field, _) => (field, [])

/-- Reads a complete line. -/
def readLine (d : Decoder) (line : List Char) : Decoder × Option Frame :=
  match line with
  | [] => d.dispatch
  | ':' :: _ => (d, none)
  | _ =>
    let (field, value) := splitField line
    if field = "event".toList then ({ d with name := some (String.ofList value) }, none)
    else if field = "data".toList then
      ({ d with data := d.data ++ [String.ofList value] }, none)
    else (d, none)

@[simp] theorem dispatch_buffer (d : Decoder) : d.dispatch.1.buffer = d.buffer := by
  unfold dispatch
  split <;> rfl

@[simp] theorem readLine_buffer (d : Decoder) (line : List Char) :
    (d.readLine line).1.buffer = d.buffer := by
  unfold readLine
  split
  · exact dispatch_buffer d
  · rfl
  · dsimp only
    split
    · rfl
    · split <;> rfl

/-- The octet that ends a line. -/
def lineFeed : UInt8 := 0x0A

/-- The octet that is dropped before a line feed. -/
def carriageReturn : UInt8 := 0x0D

/-- The text of a complete line, without a carriage return at its end. -/
def lineText (line : Bytes) : List Char :=
  let line := if line.getLast? = some carriageReturn then line.dropLast else line
  (Utf8.lossy line).toList

/-- Reads the complete lines of the buffer: the frames that they complete. -/
def drain (d : Decoder) : Decoder × List Frame :=
  match h : d.buffer.idxOf? lineFeed with
  | none => (d, [])
  | some i =>
    let read := { d with buffer := d.buffer.drop (i + 1) }.readLine (lineText (d.buffer.take i))
    let drained := read.1.drain
    (drained.1, read.2.toList ++ drained.2)
termination_by d.buffer.length
decreasing_by
  obtain ⟨inside, -⟩ := List.idxOf?_eq_some_iff.1 h
  simp only [readLine_buffer, List.length_drop]
  omega

/-- Reads a chunk of the body: the frames that it completes. -/
def push (d : Decoder) (chunk : Bytes) : Decoder × List Frame :=
  { d with buffer := d.buffer ++ chunk }.drain

/-- Reads chunks of the body in order. -/
def pushAll (d : Decoder) : List Bytes → Decoder × List Frame
  | [] => (d, [])
  | chunk :: rest =>
    let (d, frames) := d.push chunk
    let (d, others) := d.pushAll rest
    (d, frames ++ others)

/-- Ends the body: the frame that no blank line followed, if there is one. -/
def finish (d : Decoder) : Decoder × Option Frame :=
  if d.buffer.isEmpty then d.dispatch
  else
    let line := (Utf8.lossy d.buffer).toList
    let trimmed := (line.reverse.dropWhile (· == '\r')).reverse
    match { d with buffer := [] }.readLine trimmed with
    | (d, some frame) => (d, some frame)
    | (d, none) => d.dispatch

end Decoder

end QueryDesk.EventStream
