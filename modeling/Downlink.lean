import Downlink.Main
import Downlink.Codec.Traffic
import Downlink.Radio.Scripted
import Downlink.Proofs.Queue.CollisionFree
import Downlink.Proofs.Queue.Order
import Downlink.Proofs.Queue.Timeline
import Downlink.Proofs.Queue.ImmediateRun
import Downlink.Proofs.Queue.BackToBack
import Downlink.Proofs.Queue.Rotation
import Downlink.Proofs.Station.Action
import Downlink.Proofs.Station.Rotation
import Downlink.Proofs.Station.Ledger
import Downlink.Proofs.Radio.Simulated
import Downlink.Proofs.Station.Handover
import Downlink.Proofs.Station.Reachable
import Downlink.Proofs.Station.Capacity
import Downlink.Proofs.Station.Due
import Downlink.Proofs.Station.Batch
import Downlink.Proofs.Station.OnAir
import Downlink.Proofs.Queue.Arc
import Downlink.Proofs.Queue.Exchange
import Downlink.Proofs.Queue.FirstDownlink
import Downlink.Proofs.Queue.Retry
import Downlink.Proofs.Queue.EarliestSlot
import Downlink.Proofs.Beacon.Slots
import Downlink.Proofs.Radio.FrameTime
import Downlink.Proofs.Codec.RoundTrip
import Downlink.Proofs.Queue.Refused
import Downlink.Proofs.Station.Peek
import Downlink.Proofs.Station.Dequeue
import Downlink.Proofs.Airtime.Monotone
import Downlink.Proofs.Radio.History
import Downlink.Proofs.Queue.Chronology
import Downlink.Proofs.Station.Events
