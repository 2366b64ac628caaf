import FpgaNes.MemoryPort
import FpgaNes.Requests
import FpgaNes.ObjectMemory
import FpgaNes.Beam
import FpgaNes.Ppu.Tile
import FpgaNes.Fetch
import FpgaNes.Pixels
import FpgaNes.Evaluation
import FpgaNes.SpriteUnits
import FpgaNes.Composition
import FpgaNes.Hit
import FpgaNes.HitRegisters
import FpgaNes.HitWindow
import FpgaNes.DmaSource
import FpgaNes.Vblank
import FpgaNes.LineDoubling
import FpgaNes.Programming
import FpgaNes.Apu
import FpgaNes.FrameSequence
import FpgaNes.ImmediateClock
import FpgaNes.SequenceRestart
import FpgaNes.InterruptFlag
import FpgaNes.LengthCounters
import FpgaNes.Pause
import FpgaNes.Controller
import FpgaNes.Mask
import FpgaNes.SpriteSelection
import FpgaNes.SpriteOverflow
import FpgaNes.SpriteWidth
import FpgaNes.HiddenSprites
import FpgaNes.PalettePort
import FpgaNes.ReadBuffer
import FpgaNes.BufferRefill
import FpgaNes.RenderRequests
import FpgaNes.SystemRam
import FpgaNes.EnvelopeDecay
import FpgaNes.PulseFrequency
import FpgaNes.TimerChanges
import FpgaNes.Chips
import FpgaNes.StatusAgreement
import FpgaNes.ResetHistory
import FpgaNes.Mos6502.Semantics
import FpgaNes.T65.Reset
import FpgaNes.ConsoleAudio
