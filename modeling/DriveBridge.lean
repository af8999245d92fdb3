import DriveBridge.Disk.Lemmas
import DriveBridge.Numeral.Decimal
import DriveBridge.Proofs.Adapter.Conversions
import DriveBridge.Proofs.Adapter.Discretion
import DriveBridge.Proofs.Log.ReadBack
import DriveBridge.Proofs.Log.Retention
import DriveBridge.Proofs.Path.Conversion
import DriveBridge.Proofs.Redaction.Composition
import DriveBridge.Proofs.Redaction.Frame
import DriveBridge.Proofs.Redaction.Noninterference
import DriveBridge.Session.Run
import DriveBridge.Text.Utf8.Lemmas
import DriveBridge.Proofs.Config.Loading
import DriveBridge.Proofs.Log.Shift
import DriveBridge.Proofs.Session.Closing
import DriveBridge.Proofs.Log.Interleaving
import DriveBridge.Proofs.Log.SharedFile
import DriveBridge.Proofs.Log.FileNames
import DriveBridge.Proofs.Log.SeparateFiles
import DriveBridge.Proofs.Config.Fallback
import DriveBridge.Proofs.Config.ConfiguredUnit
import DriveBridge.Proofs.Log.Succession
import DriveBridge.Proofs.Log.Filling
import DriveBridge.Proofs.LengthUnit.Counting
import DriveBridge.Proofs.Path.Lengths
import DriveBridge.Proofs.Path.OctetSegments
import DriveBridge.Proofs.LengthUnit.Spelling
import DriveBridge.Proofs.Calendar.Days
import DriveBridge.Proofs.Calendar.Stamps
import DriveBridge.Proofs.Config.Integers
import DriveBridge.Proofs.Log.Numbering
import DriveBridge.Proofs.Log.Timestamps
