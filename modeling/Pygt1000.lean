import Pygt1000.Lib.Runs
import Pygt1000.RefreshScheduler
import Pygt1000.Exchanges
import Pygt1000.Nibbles
import Pygt1000.RoundTrip
import Pygt1000.EffectNames
import Pygt1000.ScanRace
import Pygt1000.ChainCodec
import Pygt1000.PatchDict
import Pygt1000.Landing
import Pygt1000.EchoFold
import Pygt1000.Negotiation
import Pygt1000.Handshake
import Pygt1000.SchedulerFaults
import Pygt1000.WriteRead
import Pygt1000.Framing
import Pygt1000.Writes
import Pygt1000.Lookups
import Pygt1000.ShortReplies
import Pygt1000.SendFaults
import Pygt1000.SubEffects
import Pygt1000.SliderRefresh
import Pygt1000.Lib.Asking
import Pygt1000.LiveSliders
import Pygt1000.SliderRace
import Pygt1000.ChainTrace
import Pygt1000.OneBlock
import Pygt1000.SchedulerWorkers
import Pygt1000.KeepAlive
import Pygt1000.Lib.Dict
import Pygt1000.Lib.Passes
import Pygt1000.Lib.Text
import Pygt1000.OptionsToJson
import Pygt1000.NamedRows
import Pygt1000.ValueLists
import Pygt1000.SpanTails
import Pygt1000.FieldWidths
import Pygt1000.LabelBytes
import Pygt1000.Lib.Spacing
import Pygt1000.Lib.Affixes
import Pygt1000.Lib.Replace
import Pygt1000.Lib.Numerals
import Pygt1000.SpecToJson
import Pygt1000.PdfTables
import Pygt1000.PdfRows
import Pygt1000.PdfSections
import Pygt1000.Reextraction
import Pygt1000.TableNames
import Pygt1000.AddressMapPages
import Pygt1000.ParameterPages
import Pygt1000.LinkedUnit
import Pygt1000.Toggles
import Pygt1000.ProgramChanges
import Pygt1000.SpecFiles
import Pygt1000.BlockReadings
import Pygt1000.Mirror
import Pygt1000.AtRest
import Pygt1000.Recovery
import Pygt1000.Identities
