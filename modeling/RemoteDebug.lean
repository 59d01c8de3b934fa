import RemoteDebug.Lib.Bytes
import RemoteDebug.Lib.CString
import RemoteDebug.Lib.CyclicRegion
import RemoteDebug.Lib.Getopt
import RemoteDebug.Lib.History
import RemoteDebug.Lib.Interleaving
import RemoteDebug.Lib.Ledger
import RemoteDebug.Lib.LittleEndian
import RemoteDebug.Lib.Numeral
import RemoteDebug.Lib.PrefixCode
import RemoteDebug.Lib.Runs
import RemoteDebug.Lib.Script
import RemoteDebug.Lib.TwoRuns
import RemoteDebug.Accesses
import RemoteDebug.Arguments
import RemoteDebug.Assembly
import RemoteDebug.CommandLine
import RemoteDebug.Common
import RemoteDebug.Driver
import RemoteDebug.Handles
import RemoteDebug.Interfaces
import RemoteDebug.Mmio
import RemoteDebug.Packet
import RemoteDebug.Platform
import RemoteDebug.Sockets
import RemoteDebug.Sysfs
import RemoteDebug.Server.Control
import RemoteDebug.Server.Data
import RemoteDebug.Server.Handle
import RemoteDebug.Server.Listen
import RemoteDebug.Server.Session
import RemoteDebug.Server.State
import RemoteDebug.Hardware.AccessRun
import RemoteDebug.Hardware.AddressRun
import RemoteDebug.Hardware.ChainRun
import RemoteDebug.Hardware.ChannelRun
import RemoteDebug.Hardware.Contract
import RemoteDebug.Hardware.CsrIp
import RemoteDebug.Hardware.DebugIp
import RemoteDebug.Hardware.DebugSession
import RemoteDebug.Hardware.DialogueRun
import RemoteDebug.Hardware.DispatchRun
import RemoteDebug.Hardware.DrainRun
import RemoteDebug.Hardware.DriverParamRun
import RemoteDebug.Hardware.FramingRun
import RemoteDebug.Hardware.H2tRun
import RemoteDebug.Hardware.InterruptRun
import RemoteDebug.Hardware.IsolationRun
import RemoteDebug.Hardware.LoopbackIp
import RemoteDebug.Hardware.LoopbackRun
import RemoteDebug.Hardware.ProcessRun
import RemoteDebug.Hardware.RoundTripRun
import RemoteDebug.Hardware.ServerRun
import RemoteDebug.Hardware.ServiceRun
import RemoteDebug.Hardware.T2hRun
import RemoteDebug.Hardware.T2hStreamRun
import RemoteDebug.Hardware.WindowMemory
import RemoteDebug.Proofs.AccessProofs
import RemoteDebug.Proofs.AddressProofs
import RemoteDebug.Proofs.AlikeProofs
import RemoteDebug.Proofs.AllocationProofs
import RemoteDebug.Proofs.ArgumentProofs
import RemoteDebug.Proofs.AsideProofs
import RemoteDebug.Proofs.AssemblyProofs
import RemoteDebug.Proofs.ChainProofs
import RemoteDebug.Proofs.ChannelProofs
import RemoteDebug.Proofs.CommandLineProofs
import RemoteDebug.Proofs.ConnectionProofs
import RemoteDebug.Proofs.ControlProofs
import RemoteDebug.Proofs.DeliveryProofs
import RemoteDebug.Proofs.DialogueProofs
import RemoteDebug.Proofs.DispatchProofs
import RemoteDebug.Proofs.DrainProofs
import RemoteDebug.Proofs.DriverParamProofs
import RemoteDebug.Proofs.DriverParseProofs
import RemoteDebug.Proofs.EchoBytesProofs
import RemoteDebug.Proofs.EchoProofs
import RemoteDebug.Proofs.EmulationProofs
import RemoteDebug.Proofs.FramingProofs
import RemoteDebug.Proofs.H2tProofs
import RemoteDebug.Proofs.HandleProofs
import RemoteDebug.Proofs.HandshakeProofs
import RemoteDebug.Proofs.HeldProofs
import RemoteDebug.Proofs.InsideProofs
import RemoteDebug.Proofs.InterfaceProofs
import RemoteDebug.Proofs.InterruptProofs
import RemoteDebug.Proofs.IsolationProofs
import RemoteDebug.Proofs.LandingProofs
import RemoteDebug.Proofs.ListenProofs
import RemoteDebug.Proofs.LoopbackProofs
import RemoteDebug.Proofs.MainLoopProofs
import RemoteDebug.Proofs.ParameterProofs
import RemoteDebug.Proofs.PlatformProofs
import RemoteDebug.Proofs.ProcessProofs
import RemoteDebug.Proofs.QuietProofs
import RemoteDebug.Proofs.ReclaimProofs
import RemoteDebug.Proofs.RegisterProofs
import RemoteDebug.Proofs.ResidueProofs
import RemoteDebug.Proofs.RingProofs
import RemoteDebug.Proofs.RingRunProofs
import RemoteDebug.Proofs.RoundTripProofs
import RemoteDebug.Proofs.SendProofs
import RemoteDebug.Proofs.ServerRunProofs
import RemoteDebug.Proofs.ServiceProofs
import RemoteDebug.Proofs.SocketProofs
import RemoteDebug.Proofs.SpanProofs
import RemoteDebug.Proofs.StagingProofs
import RemoteDebug.Proofs.StreamProofs
import RemoteDebug.Proofs.SysfsProofs
import RemoteDebug.Proofs.T2hLengthProofs
import RemoteDebug.Proofs.T2hProofs
import RemoteDebug.Proofs.T2hStreamProofs
import RemoteDebug.Proofs.TableProofs
import RemoteDebug.Proofs.TransferProofs
import RemoteDebug.Proofs.UnusedProofs
import RemoteDebug.Proofs.UsageProofs
import RemoteDebug.Proofs.WaitProofs
import RemoteDebug.Proofs.WakeUpProofs
import RemoteDebug.Proofs.WidthProofs
import RemoteDebug.Proofs.WindowProofs
import RemoteDebug.Proofs.ZeroMemProofs
