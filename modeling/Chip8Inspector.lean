import Chip8Inspector.Machine.Scripted
import Chip8Inspector.Main
import Chip8Inspector.Text.Comparand
import Chip8Inspector.Proofs.BoardView
import Chip8Inspector.Proofs.DispatchOutcomes
import Chip8Inspector.Proofs.FrameLoopRuns
import Chip8Inspector.Proofs.InspectorHistory
import Chip8Inspector.Proofs.LoaderDelivery
import Chip8Inspector.Proofs.ViewFreshness
import Chip8Inspector.Proofs.WalkerHistory
import Chip8Inspector.Proofs.FrameCompletion
import Chip8Inspector.Proofs.CurrentLine
import Chip8Inspector.Proofs.ReadableFaces
import Chip8Inspector.Proofs.RenderedTexts
import Chip8Inspector.Proofs.KeyMirror
import Chip8Inspector.Proofs.CommittedProgram
import Chip8Inspector.Proofs.ProgramBounds
import Chip8Inspector.Proofs.HandOutOrder
import Chip8Inspector.Proofs.SpriteDrawing
import Chip8Inspector.Proofs.ListedMemory
import Chip8Inspector.Proofs.ListedSteps
import Chip8Inspector.Proofs.CatalogPanel
import Chip8Inspector.Proofs.ChooserHistory
import Chip8Inspector.Proofs.MainLoop
import Chip8Inspector.Proofs.KeyStrokes
import Chip8Inspector.Proofs.MemoryStores
import Chip8Inspector.Proofs.CommandLine
import Chip8Inspector.Proofs.NewestMessages
import Chip8Inspector.Proofs.CatalogReading
import Chip8Inspector.Proofs.PlainTypesetter
