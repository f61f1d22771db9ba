import Chip8.Machine.History
import Chip8.Main
import Chip8.Proofs.Cycle
import Chip8.Proofs.Decoding
import Chip8.Proofs.Effects
import Chip8.Proofs.Faults
import Chip8.Proofs.ControlFlow
import Chip8.Proofs.Calls
import Chip8.Proofs.ControlRange
import Chip8.Proofs.Drawing
import Chip8.Proofs.Keys
import Chip8.Proofs.HeldKeys
import Chip8.Proofs.KeyWait
import Chip8.Proofs.Lineages
import Chip8.Proofs.Lockstep
import Chip8.Proofs.Restart
import Chip8.Proofs.SessionFault
import Chip8.Proofs.Timers
import Chip8.Proofs.Frames
import Chip8.Proofs.StraightLine
import Chip8.Proofs.LifeCycle
import Chip8.Proofs.TimerValues
import Chip8.Proofs.Interleaving
import Chip8.Proofs.Turns
import Chip8.Proofs.KeyAnswers
import Chip8.Proofs.NextAddress
import Chip8.Proofs.Footprint
import Chip8.Proofs.Arithmetic
import Chip8.Proofs.HiddenParts
import Chip8.Proofs.Transfers
import Chip8.Proofs.Overlays
import Chip8.Proofs.LitPixels
import Chip8.Proofs.Glyphs
import Chip8.Proofs.Patterns
import Chip8.Proofs.TableOrder
import Chip8.Proofs.SessionLog
import Chip8.Proofs.Listing
import Chip8.Proofs.Accesses
import Chip8.Proofs.ShownScreen
import Chip8.Proofs.Rates
import Chip8.Proofs.FrameBudget
