/-
The program.

It reads a listing of files from its input up to an empty line, runs the command of its arguments on
the files that are listed, and writes what the command has made.  A watched site goes on with the
lines after the empty one, each of which tells of a change.
-/
import StaticSite.Command.Listing

namespace StaticSite.Program

open StaticSite.Command

/-- The content of a file; one that cannot be read counts as empty. -/
def contentAt (path : String) : IO ByteArray := do
  try IO.FS.readBinFile path catch _ => pure ByteArray.empty

/-- The content that belongs to a record. -/
def contentOf (r : Record) : IO ByteArray :=
  match r.contentPath? with
  | some path => contentAt path
  | none => pure ByteArray.empty

/-- Read the listing; a line that is no record is skipped. -/
partial def readListing (input : IO.FS.Stream) (w : World) : IO World := do
  let line ← input.getLine
  if line.isEmpty || line == "\n" then return w
  match Record.ofLine? line with
  | some r => readListing input (w.apply r (← contentOf r))
  | none => readListing input w

/-- Write what is new. -/
def store (before after : FileSystem) : IO Unit := do
  for place in madeFolders before after do
    IO.FS.createDirAll (absolutePath place)
  for (place, content) in written before after do
    IO.FS.writeBinFile (absolutePath place) content

/-- Take note of changes and work them off, until the input ends. -/
partial def follow (input : IO.FS.Stream) (w : World) (session : Watch.Session) : IO Unit := do
  let line ← input.getLine
  if line.isEmpty then return ()
  match Record.ofLine? line with
  | none => follow input w session
  | some r =>
    let changed := w.apply r (← contentOf r)
    let noted := match r.change? w.files with
      | some change => session.note change
      | none => session
    let progress := noted.workOff changed.files changed.now
    store changed.files progress.files
    for event in progress.events do
      if event.ok then IO.println event.line else IO.eprintln event.line
    follow input { changed with files := progress.files } progress.session

end StaticSite.Program

/-- Run the program. -/
def main (args : List String) : IO UInt32 := do
  let input ← IO.getStdin
  let world ← StaticSite.Program.readListing input .empty
  let begun ← IO.monoMsNow
  let exit := StaticSite.Command.run world args
  StaticSite.Program.store world.files exit.files
  let elapsed := (← IO.monoMsNow) - begun
  for line in exit.printed elapsed do
    IO.println line
  for line in exit.complaints do
    IO.eprintln line
  if let some session := exit.session? then
    StaticSite.Program.follow input { world with files := exit.files } session
  return exit.code.toUInt32
