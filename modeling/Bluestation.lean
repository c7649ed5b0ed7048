import Bluestation.Core.TdmaArithmetic
import Bluestation.Core.TimeslotHistory
import Bluestation.Pdus.HeaderCodecs
import Bluestation.Umac.FragProgress
import Bluestation.Umac.UplinkReassembly
import Bluestation.Llc.AdvancedProgress
import Bluestation.Config.RolloverRuns
import Bluestation.Llc.BasicUplink
import Bluestation.Sndcp.Deliveries
import Bluestation.Sndcp.LabelRuns
import Bluestation.Umac.CapacityAccounting
import Bluestation.Umac.TrafficPolicy
import Bluestation.Config.GroupKeyRuns
import Bluestation.Config.StationProvisioning
import Bluestation.Mm.AffiliationRuns
import Bluestation.Cmce.SdsReports
import Bluestation.Cmce.DgnaJobs
import Bluestation.Mle.RoamingAnswers
import Bluestation.Brew.SessionPairs
import Bluestation.Brew.JitterBuffer
import Bluestation.Cmce.HandoverReservation
import Bluestation.Cmce.AdmissionRuns
import Bluestation.Llc.Segmentation
import Bluestation.Umac.DefragRuns
import Bluestation.Lmac.AccessAssignment
import Bluestation.Lmac.SoftDecisions
import Bluestation.Umac.GrantingDelay
import Bluestation.Umac.EnergyEconomyRuns
import Bluestation.Config.DckRequests
import Bluestation.Umac.BearerFence
import Bluestation.Umac.EventLabels
import Bluestation.Umac.RandomAccess
import Bluestation.Umac.GrantRequests
import Bluestation.Phy.Slotter
import Bluestation.Pdus.MacUplinkCodec
import Bluestation.Mm.GroupSecurity
import Bluestation.Config.CommonControlLoads
import Bluestation.Cmce.Type3Codecs
import Bluestation.Core.SsiRanges
import Bluestation.Lmac.Lossless
