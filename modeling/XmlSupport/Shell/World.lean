import XmlSupport.Machine.Exit
import XmlSupport.Machine.Files
import XmlSupport.Shell.Text

/-!
# What processes share

Processes share the files, the channels between them, and the signals they send
each other. Nothing runs at the same time as anything else: a process that is
started is followed to its end at once, and every write carries the time at
which it would have happened. What a channel gives out is in the order of time.
Times are in microseconds.
-/

namespace XmlSupport.Shell

open Machine

/-- How long somebody reads from a channel. -/
inductive Reader where
  /-- Reads everything. -/
  | patient
  /-- Has gone at a time, and takes no more than a number of bytes. -/
  | leaving (time room : Nat)
  /-- Goes away at the first write. -/
  | startled
  deriving DecidableEq, Repr

/-- What was written at once, with the background jobs that the writer belongs to. -/
structure Chunk where
  time : Nat
  owners : List Nat
  text : Text
  deriving DecidableEq, Repr

/-- How many bytes wait in a channel before a writer has to wait. -/
def channelSize : Nat := 65536

/-- How long it takes until a reader has gone for its writers. -/
def goingTime : Nat := 10000

structure Channel where
  /-- What nobody has read yet, the latest in front. -/
  chunks : List Chunk
  reader : Reader
  firstWrite : Option Nat
  lastWrite : Nat
  written : Nat
  taken : Nat
  /-- When the last writer has ended. -/
  closed : Nat
  /-- Whether a write failed. -/
  isCut : Bool
  /-- Whether a reader wanted more than a cut channel holds. -/
  isStarved : Bool
  deriving DecidableEq, Repr

namespace Channel

def new (reader : Reader) : Channel := ⟨[], reader, none, 0, 0, 0, 0, false, false⟩

/-- How much of a write at a time is taken. -/
def room (c : Channel) (time length : Nat) : Nat :=
  match c.reader with
  | .patient => length
  | .leaving gone room => if gone < time then 0 else min length (room - c.written)
  | .startled =>
    if c.firstWrite.getD time + goingTime < time then 0
    else min length (channelSize - c.written)

def insertChunk (chunk : Chunk) : List Chunk → List Chunk
  | [] => [chunk]
  | latest :: rest =>
    if latest.time ≤ chunk.time then chunk :: latest :: rest
    else latest :: insertChunk chunk rest

/-- Writes what there is room for; the flag tells whether that is all. -/
def write (c : Channel) (chunk : Chunk) : Channel × Bool :=
  let length := chunk.text.length
  let room := c.room chunk.time length
  let isWhole := room = length
  ({ c with
    chunks := if room = 0 then c.chunks
      else insertChunk { chunk with text := chunk.text.take room } c.chunks
    firstWrite := some (c.firstWrite.getD chunk.time)
    lastWrite := max c.lastWrite chunk.time
    written := c.written + room
    isCut := c.isCut || !isWhole }, isWhole)

def text (c : Channel) : Text := c.chunks.reverse.flatMap (·.text)

/-- When the first bytes of a text are there. -/
def timeOf (n : Nat) : List Chunk → Nat
  | [] => 0
  | [chunk] => chunk.time
  | chunk :: rest =>
    if n ≤ chunk.text.length then chunk.time else timeOf (n - chunk.text.length) rest

def dropBytes : Nat → List Chunk → List Chunk
  | _, [] => []
  | n, chunk :: rest =>
    if n < chunk.text.length then { chunk with text := chunk.text.drop n } :: rest
    else dropBytes (n - chunk.text.length) rest

def take (c : Channel) (n : Nat) : Channel :=
  { c with chunks := (dropBytes n c.chunks.reverse).reverse, taken := c.taken + n }

/-- Reads to the end. -/
def drain (c : Channel) : Channel :=
  { c.take c.text.length with isStarved := c.isStarved || c.isCut }

/-- Takes back what a background job has written. -/
def without (c : Channel) (job : Nat) : Channel :=
  { c with chunks := c.chunks.filter fun chunk => !chunk.owners.contains job }

end Channel

/-- What an open descriptor leads to. -/
inductive Stream where
  | nowhere
  /-- Zero bytes without end. -/
  | zeros
  /-- What the client sends. -/
  | client
  | channel (index : Nat)
  | file (place : Place) (offset : Nat) (appends : Bool)
  deriving DecidableEq, Repr

/-- An open stream. Descriptors of several processes may share it, and where it stands. -/
structure Opening where
  stream : Stream
  reads : Bool
  writes : Bool
  deriving DecidableEq, Repr

/-- A signal on its way. -/
structure Delivery where
  time : Nat
  owners : List Nat
  process : Nat
  signal : Nat
  deriving DecidableEq, Repr

structure World where
  files : Files
  openings : List Opening
  channels : List Channel
  /-- What the client has sent and nobody has read. -/
  input : Text
  /-- All signals, the earliest sent in front. -/
  deliveries : List Delivery
  nextProcess : Nat

inductive WriteFault where
  | notOpen
  | brokenPipe
  deriving DecidableEq, Repr

namespace WriteFault

def text : WriteFault → String
  | .notOpen => "Bad file descriptor"
  | .brokenPipe => "Broken pipe"

end WriteFault

namespace World

/-- The channel of the output and that of error messages. -/
def outputIndex : Nat := 0

def errorsIndex : Nat := 1

def openStream (w : World) (o : Opening) : World × Nat :=
  ({ w with openings := w.openings ++ [o] }, w.openings.length)

def stream? (w : World) (opening : Nat) : Option Stream :=
  match w.openings[opening]? with
  | some o => some o.stream
  | none => none

/-- The channel that an opening writes. -/
def writtenChannel? (w : World) (opening : Nat) : Option Nat :=
  match w.openings[opening]? with
  | some o =>
    match o.stream with
    | .channel i => if o.writes then some i else none
    | _ => none
  | none => none

def setChannel (w : World) (i : Nat) (c : Channel) : World :=
  { w with channels := w.channels.set i c }

def setStream (w : World) (i : Nat) (s : Stream) : World :=
  { w with openings := w.openings.modify i fun o => { o with stream := s } }

/-- A new channel and the openings for reading and writing it. -/
def openChannel (w : World) (reader : Reader) : World × Nat × Nat × Nat :=
  let index := w.channels.length
  let w := { w with channels := w.channels ++ [Channel.new reader] }
  let (w, reading) := w.openStream ⟨.channel index, true, false⟩
  let (w, writing) := w.openStream ⟨.channel index, false, true⟩
  (w, index, reading, writing)

def fileText (w : World) (place : Place) : Text :=
  match w.files.node? place with
  | some (.file content _) => ofBytes content
  | _ => []

/-- A text written into another from an offset on; a gap is filled with zero bytes. -/
def splice (content : Text) (offset : Nat) (text : Text) : Text :=
  let front := content.take offset
  front ++ List.replicate (offset - front.length) '\x00' ++ text ++
    content.drop (offset + text.length)

/-- Writes to an opening; what a fault leaves of the text has been written. -/
def write (w : World) (opening : Nat) (chunk : Chunk) : World × Option WriteFault :=
  match w.openings[opening]? with
  | none => (w, some .notOpen)
  | some o =>
    if !o.writes then (w, some .notOpen)
    else
      match o.stream with
      | .channel i =>
        match w.channels[i]? with
        | none => (w, some .brokenPipe)
        | some c =>
          let (c, isWhole) := c.write chunk
          (w.setChannel i c, if isWhole then none else some .brokenPipe)
      | .file place offset appends =>
        match w.files.node? place with
        | some (.file content executable) =>
          let content := ofBytes content
          let offset := if appends then content.length else offset
          let content := splice content offset chunk.text
          ({ w with files := w.files.set place (.file (toBytes content) executable) }.setStream
            opening (.file place (offset + chunk.text.length) appends), none)
        | _ => (w, none)
      | _ => (w, none)

/-- How much is given of a stream without an end. -/
def endlessLength : Nat := 300000

/-- What can be read from an opening up to its end. -/
def text? (w : World) (opening : Nat) : Option Text :=
  match w.openings[opening]? with
  | none => none
  | some o =>
    if !o.reads then none
    else
      match o.stream with
      | .nowhere => some []
      | .zeros => some (List.replicate endlessLength '\x00')
      | .client => some w.input
      | .channel i => (w.channels[i]?).map (·.text)
      | .file place offset _ => some ((w.fileText place).drop offset)

/-- Takes bytes that can be read, and tells from which time on they are there. -/
def take (w : World) (opening n : Nat) : World × Nat :=
  match w.stream? opening with
  | some .client => ({ w with input := w.input.drop n }, 0)
  | some (.channel i) =>
    match w.channels[i]? with
    | some c => (w.setChannel i (c.take n), Channel.timeOf n c.chunks.reverse)
    | none => (w, 0)
  | some (.file place offset appends) =>
    (w.setStream opening (.file place (offset + n) appends), 0)
  | _ => (w, 0)

/-- Reads to the end, and tells when that shows. -/
def drain (w : World) (opening : Nat) : World × Nat :=
  match w.stream? opening with
  | some .client => ({ w with input := [] }, 0)
  | some (.channel i) =>
    match w.channels[i]? with
    | some c => (w.setChannel i c.drain, max c.closed c.lastWrite)
    | none => (w, 0)
  | some (.file place offset appends) =>
    (w.setStream opening (.file place (max offset (w.fileText place).length) appends), 0)
  | _ => (w, 0)

/-- Tells the channels behind some openings that a writer was there until a time. -/
def close (w : World) (openings : List Nat) (time : Nat) : World :=
  openings.foldl (fun w opening =>
    match w.writtenChannel? opening with
    | some i =>
      match w.channels[i]? with
      | some c => w.setChannel i { c with closed := max c.closed time }
      | none => w
    | none => w) w

def send (w : World) (d : Delivery) : World := { w with deliveries := w.deliveries ++ [d] }

/-- No process has this number. -/
def nobody : Nat := 0

/-- The world without what a background job has written, and without the
signals it has sent behind a time. -/
def without (w : World) (job time : Nat) : World :=
  { w with
    channels := w.channels.map (·.without job)
    deliveries := w.deliveries.map fun d =>
      if d.owners.contains job && time < d.time then { d with process := nobody } else d }

/-- Takes back signals that a background job sent twice, having been followed again. -/
def withoutRepeats (w : World) (job time known : Nat) : World :=
  { w with
    deliveries := w.deliveries.take known ++ (w.deliveries.drop known).map fun d =>
      if d.owners.contains job && d.time ≤ time then { d with process := nobody } else d }

/-- What has reached a channel, read or unread. -/
def channelText (w : World) (i : Nat) : Text := ((w.channels[i]?).map (·.text)).getD []

end World
end XmlSupport.Shell
