import FrameTiming.Binary64
import FrameTiming.Cadence.Counter
import FrameTiming.Duration.Narrowing
import FrameTiming.Proofs.Chain
import FrameTiming.Proofs.Conversion
import FrameTiming.Proofs.Drift
import FrameTiming.Proofs.Restart
import FrameTiming.Proofs.RoundTrip
import FrameTiming.Proofs.TextOrder
import FrameTiming.Proofs.Advance
import FrameTiming.Proofs.Renewal
import FrameTiming.Proofs.Placement
import FrameTiming.Proofs.ClockShift
import FrameTiming.Proofs.Unchecked
import FrameTiming.Proofs.Alignment
import FrameTiming.Proofs.ConversionOrder
import FrameTiming.Proofs.TickRange
import FrameTiming.Proofs.Accumulation
import FrameTiming.Proofs.Cascade
import FrameTiming.Proofs.Pacing
import FrameTiming.Proofs.Affine
import FrameTiming.Proofs.Truncation
import FrameTiming.Proofs.Division
import FrameTiming.Proofs.SecondSplit
