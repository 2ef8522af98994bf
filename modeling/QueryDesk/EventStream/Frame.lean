import QueryDesk.Text.Utf8

/-!
# Server-sent frames

A frame is a comment or a named event with data.  On the wire a comment is a line that starts with
a colon, an event is an `event:` line and a `data:` line for each line of its data, and a blank
line ends either.  A line end inside a comment becomes a space; an event name with a line end
cannot be written.
-/

namespace QueryDesk.EventStream

/-- A comment or an event. -/
inductive Frame where
  | comment (text : String)
  | event (name : String) (data : String)
deriving DecidableEq, Repr

/-- A carriage return or a line feed. -/
def isLineEnd (c : Char) : Bool :=
  c == '\r' || c == '\n'

/-- Turns every carriage return before a line feed into that line feed alone. -/
def joinLineEnds : List Char → List Char
  | '\r' :: '\n' :: rest => '\n' :: joinLineEnds rest
  | c :: rest => c :: joinLineEnds rest
  | [] => []

/-- Repeats the field name after every line end. -/
def dataLines : List Char → List Char
  | [] => []
  | c :: rest => if isLineEnd c then c :: ("data: ".toList ++ dataLines rest)
    else c :: dataLines rest

/-- The `data:` lines of an event; empty data has none. -/
def dataField (data : List Char) : List Char :=
  match joinLineEnds data with
  | [] => []
  | cs => "data: ".toList ++ dataLines cs ++ ['\n']

/-- The text of a frame, unless its name cannot be written. -/
def Frame.wire? : Frame → Option (List Char)
  | .comment text =>
    some (": ".toList ++ text.toList.map (fun c => if isLineEnd c then ' ' else c) ++
      ['\n', '\n'])
  | .event name data =>
    if name.toList.any isLineEnd then none
    else some ("event: ".toList ++ name.toList ++ '\n' :: (dataField data.toList ++ ['\n']))

/-- The text of a list of frames, unless one of them cannot be written. -/
def wireAll? (frames : List Frame) : Option (List Char) :=
  (frames.mapM Frame.wire?).map List.flatten

end QueryDesk.EventStream
