import RCanopus.Codec
import RCanopus.Framing
import RCanopus.BGAgreement
import RCanopus.SequenceWrap
import RCanopus.ExchangeMoves
import RCanopus.Round3Spec
import RCanopus.CycleOrder
import RCanopus.Answers
import RCanopus.NoDeadlock
import RCanopus.Delivery
import RCanopus.Batches
import RCanopus.Baseline.CycleView
import RCanopus.Wrapping
import RCanopus.Envoys
import RCanopus.Listener
import RCanopus.Equivocation
import RCanopus.Rejections
import RCanopus.Baseline.LateAnswers
import RCanopus.Baseline.Agreement
import RCanopus.Baseline.Stranded
import RCanopus.HandOver
import RCanopus.ParseConfig
import RCanopus.SetUp
import RCanopus.HostOrder
import RCanopus.StatusFields
import RCanopus.Liveness
import RCanopus.Service
import RCanopus.Link
import RCanopus.Hybrid.Liveness
