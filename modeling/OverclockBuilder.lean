import OverclockBuilder.RadixText
import OverclockBuilder.WordText
import OverclockBuilder.BytePacking
import OverclockBuilder.LabelTree
import OverclockBuilder.ShellFlow
import OverclockBuilder.BashText
import OverclockBuilder.CNumber
import OverclockBuilder.DeviceTree
import OverclockBuilder.FdtTools
import OverclockBuilder.MenuScript
import OverclockBuilder.ApplyStage
import OverclockBuilder.ApplyFrame
import OverclockBuilder.ApplyFrequency
import OverclockBuilder.ApplyVoltage
import OverclockBuilder.MenuVoltage
import OverclockBuilder.MenuConfirmation
import OverclockBuilder.ArgumentText
import OverclockBuilder.DtTable
import OverclockBuilder.DtTableScrape
import OverclockBuilder.DtTableIdentity
import OverclockBuilder.DtTableExtraction
import OverclockBuilder.FailFast
import OverclockBuilder.AvbFooter
import OverclockBuilder.LineText
import OverclockBuilder.ByteText
import OverclockBuilder.AvbInfo
import OverclockBuilder.AvbInfoLines
import OverclockBuilder.AvbScrape
import OverclockBuilder.AvbFingerprint
import OverclockBuilder.AvbVbmeta
import OverclockBuilder.AvbBlob
import OverclockBuilder.FootedImage
import OverclockBuilder.BuildRun
import OverclockBuilder.RunHistory
import OverclockBuilder.PackedTable
import OverclockBuilder.BuildConfirmation
import OverclockBuilder.RepackArguments
import OverclockBuilder.RepackFidelity
import OverclockBuilder.MenuMachine
import OverclockBuilder.MenuRefinement
import OverclockBuilder.MenuReachable
import OverclockBuilder.MenuSteps
import OverclockBuilder.MenuNavigation
import OverclockBuilder.MenuEntryPoints
import OverclockBuilder.MenuFrequency
import OverclockBuilder.FdtBlob
import OverclockBuilder.FdtTokens
import OverclockBuilder.FdtFocus
import OverclockBuilder.FdtWalk
import OverclockBuilder.FdtLookup
import OverclockBuilder.FdtGet
import OverclockBuilder.ByteMemory
import OverclockBuilder.FdtEdit
import OverclockBuilder.FdtLayout
import OverclockBuilder.FdtStore
import OverclockBuilder.FdtPut
import OverclockBuilder.PagedSections
import OverclockBuilder.VendorBootImage
import OverclockBuilder.FinalVerification
import OverclockBuilder.ApplyBytes
import OverclockBuilder.VendorBootUnpack
import OverclockBuilder.ArgumentParser
import OverclockBuilder.MkbootimgParser
import OverclockBuilder.RepackRoundTrip
import OverclockBuilder.RepackEquivalence
import OverclockBuilder.ScriptRun
import OverclockBuilder.OutputSafety
import OverclockBuilder.VerifiedRun
import OverclockBuilder.AvbMetadata
import OverclockBuilder.AvbLifecycle
import OverclockBuilder.StructFormat
import OverclockBuilder.SerialPlacement
import OverclockBuilder.DtTableCreate
import OverclockBuilder.DtTablePlacement
import OverclockBuilder.DtTableRoundTrip
import OverclockBuilder.DtTableScript
