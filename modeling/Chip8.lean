import Chip8.Host.Contents
import Chip8.Host.Countdown
import Chip8.Host.Notice
import Chip8.Host.Session
import Chip8.Host.Words
import Chip8.Instr.Encoding
import Chip8.Proofs.Accounting
import Chip8.Proofs.Agreement
import Chip8.Proofs.Arithmetic
import Chip8.Proofs.Atomicity
import Chip8.Proofs.BoundedStack
import Chip8.Proofs.CallReturn
import Chip8.Proofs.ControlFlow
import Chip8.Proofs.Counting
import Chip8.Proofs.Decay
import Chip8.Proofs.Delivery
import Chip8.Proofs.DiffReplay
import Chip8.Proofs.Disassembly
import Chip8.Proofs.DrawPending
import Chip8.Proofs.Drawing
import Chip8.Proofs.Edit
import Chip8.Proofs.Faults
import Chip8.Proofs.Footprint
import Chip8.Proofs.HandlerAgreement
import Chip8.Proofs.History
import Chip8.Proofs.Image
import Chip8.Proofs.JsonRoundTrip
import Chip8.Proofs.KeyHistory
import Chip8.Proofs.KeyWait
import Chip8.Proofs.Microcode
import Chip8.Proofs.Overlay
import Chip8.Proofs.Pairing
import Chip8.Proofs.PixelHistory
import Chip8.Proofs.ProgramText
import Chip8.Proofs.Quotient
import Chip8.Proofs.RandomStream
import Chip8.Proofs.Reach
import Chip8.Proofs.Reading
import Chip8.Proofs.Recording
import Chip8.Proofs.Rendering
import Chip8.Proofs.Replay
import Chip8.Proofs.Reset
import Chip8.Proofs.SettingsFile
import Chip8.Proofs.Step
import Chip8.Proofs.StepEvents
import Chip8.Proofs.Store
import Chip8.Proofs.Timing
import Chip8.Proofs.Transfer
import Chip8.Proofs.Transparency
import Chip8.Proofs.WellFormed
import Chip8.Settings.Basic
