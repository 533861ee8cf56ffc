import Chip8.Session
import Chip8.Settings.Layers
import Chip8.Proofs.FaultReport
import Chip8.Proofs.Representation
import Chip8.Proofs.Drawing
import Chip8.Proofs.Bracket
import Chip8.Proofs.FontTable
import Chip8.Proofs.Strict
import Chip8.Proofs.Waiting
import Chip8.Proofs.Undefined
import Chip8.Proofs.Tone
import Chip8.Proofs.Loading
import Chip8.Proofs.Alternation
import Chip8.Proofs.Reset
import Chip8.Proofs.Forwarding
import Chip8.Proofs.RandomStream
import Chip8.Proofs.Timers
import Chip8.Proofs.LoadFailure
import Chip8.Proofs.HostTiming
import Chip8.Proofs.Dialects
import Chip8.Proofs.StraightLine
import Chip8.Proofs.NextAddress
import Chip8.Proofs.Calculation
import Chip8.Proofs.Transfer
import Chip8.Proofs.Glyph
import Chip8.Proofs.ProgressBar
import Chip8.Proofs.Levels
import Chip8.Proofs.KeyCodes
import Chip8.Proofs.Sampling
import Chip8.Proofs.Precedence
