import Chip8Inspector.Host.Run
import Chip8Inspector.Machine.Walker
import Chip8Inspector.Terminal.Ansi

/-!
The program: `chip8-inspector [catalog.json] [--fps N] [--before N] [--after N] [--hold N]`, on
a terminal in raw mode. It reads keys and files, keeps time and shows the scenes. Everything
else is the inspector's.
-/

set_option autoImplicit false

namespace Chip8Inspector.Program

structure PendingRead where
  generation : Nat
  contents : Task (Except FileError Program)

def causeOf : IO.Error → FileError
  | .noFileOrDirectory .. => .notFound
  | .inappropriateType .. => .isDirectory
  | cause => .other cause.toString

def readFile (path : String) : BaseIO (Except FileError Program) := do
  match ← (IO.FS.readBinFile path).toBaseIO with
  | .ok bytes => return .ok bytes.data
  | .error cause => return .error (causeOf cause)

/-- Starts reading for every fetch that nobody reads for yet. -/
def startReads (loader : Loader) (reads : List PendingRead) : BaseIO (List PendingRead) := do
  let fresh := loader.inFlight.filter fun fetch =>
    !reads.any fun read => read.generation == fetch.generation
  let started ← fresh.mapM fun fetch => do
    return ⟨fetch.generation, ← (readFile fetch.path).asTask⟩
  return reads ++ started

def finishReads {M : Type} (inspector : Inspector M) (reads : List PendingRead) :
    BaseIO (Inspector M × List PendingRead) := do
  let mut changed := inspector
  let mut waiting := []
  for read in reads do
    if ← IO.hasFinished read.contents then
      changed := changed.complete read.generation read.contents.get
    else
      waiting := waiting ++ [read]
  return (changed, waiting)

partial def listen (input : IO.FS.Stream) (typed : IO.Ref String) : IO Unit := do
  let bytes ← input.read 64
  if bytes.isEmpty then return
  if let some text := String.fromUTF8? bytes then
    typed.modify (· ++ text)
  listen input typed

def terminalWidth : Nat := 130

def terminalHeight : Nat := 46

partial def loop {M : Type} [Machine M] (settings : Settings) (typed : IO.Ref String)
    (inspector : Inspector M) (reads : List PendingRead) : IO Unit := do
  let started ← IO.monoNanosNow
  let text ← typed.modifyGet fun text => (text, "")
  let (arrived, reads) ← finishReads inspector reads
  let handled := arrived.handleAll ((Terminal.strokes text.toList).filterMap KeyStroke.command?)
  if handled.running then
    let (ready, reads) ← finishReads handled (← startReads handled.chooser.loader reads)
    let ticked := ready.tick
    let output ← IO.getStdout
    output.putStr
      ((ticked.scene.draw terminalWidth terminalHeight).text terminalWidth terminalHeight)
    output.flush
    let elapsed := (← IO.monoNanosNow) - started
    IO.sleep (UInt32.ofNat ((settings.frameNanoseconds - elapsed) / 1000000))
    loop settings typed ticked reads

def run (settings : Settings) : IO Unit := do
  let fresh := Inspector.make Walker.fresh settings (.upTo .info)
  -- A catalog that cannot be used is in the messages already; the program goes on without one.
  let (_, inspector) := fresh.loadCatalog settings.catalog (← readFile settings.catalog)
  let typed ← IO.mkRef ""
  let _ ← (listen (← IO.getStdin) typed).asTask
  let output ← IO.getStdout
  output.putStr Terminal.openScreen
  try
    loop settings typed inspector (← startReads inspector.chooser.loader [])
  finally
    output.putStr Terminal.closeScreen
    output.flush

end Chip8Inspector.Program

open Chip8Inspector in
def main (arguments : List String) : IO UInt32 := do
  match Settings.ofArguments arguments with
  | .error cause =>
      IO.eprintln cause.message
      return 1
  | .ok settings =>
      Program.run settings
      return 0
