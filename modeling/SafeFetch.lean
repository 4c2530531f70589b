import SafeFetch.Text.Blank
import SafeFetch.Text.Digit
import SafeFetch.Text.Hex
import SafeFetch.Text.Printable
import SafeFetch.Text.Quoted
import SafeFetch.Text.Utf8
import SafeFetch.Percent
import SafeFetch.FileName
import SafeFetch.Charset.Basic
import SafeFetch.Text.Numeral
import SafeFetch.Http.Date
import SafeFetch.Disposition.Basic
import SafeFetch.Disposition.ExtendedValue
import SafeFetch.Log
import SafeFetch.Http.Address
import SafeFetch.Http.UrlParts
import SafeFetch.Http.HostName.Basic
import SafeFetch.Http.Url
import SafeFetch.Http.Headers
import SafeFetch.Failure
import SafeFetch.FileInfo
import SafeFetch.Path
import SafeFetch.Text.Binary64
import SafeFetch.Settings
import SafeFetch.Chunk
import SafeFetch.Digest.Algorithm
import SafeFetch.Transfer.Copy
import SafeFetch.Digest.Expected
import SafeFetch.FileSystem.Call
import SafeFetch.Manifest
import SafeFetch.Checksum
import SafeFetch.Download
import SafeFetch.CommandLine.Run
import SafeFetch.Main
import SafeFetch.Proofs.CommandLine.Files
import SafeFetch.Proofs.Disposition.Grammar
import SafeFetch.Proofs.FileInfo
import SafeFetch.Proofs.Download.Interruption
import SafeFetch.Proofs.Download.Preservation
import SafeFetch.Proofs.Download.Verification
import SafeFetch.Proofs.Digest
import SafeFetch.Proofs.CommandLine.Manifest
import SafeFetch.Proofs.Ancestors
import SafeFetch.Proofs.Download.Completion
import SafeFetch.Proofs.Hex
import SafeFetch.Proofs.Download.Rereading
import SafeFetch.Proofs.Requests
import SafeFetch.Proofs.CommandLine.Presence
import SafeFetch.Proofs.CommandLine.ExitCode
import SafeFetch.Proofs.Download.Upkeep
import SafeFetch.Proofs.CommandLine.Course
import SafeFetch.Proofs.Disposition.ParameterSet
import SafeFetch.Proofs.Disposition.ExtendedName
import SafeFetch.Proofs.Download.Link
import SafeFetch.Proofs.CommandLine.Rerun
import SafeFetch.Proofs.Download.Abstention
import SafeFetch.Proofs.Http.Date
import SafeFetch.Proofs.Stamp
import SafeFetch.Proofs.Transfer.Delivery
import SafeFetch.Proofs.Transfer.FanOut
import SafeFetch.Proofs.Transfer.Succession
import SafeFetch.Proofs.Checksum.Coverage
import SafeFetch.Proofs.Checksum.Verdict
import SafeFetch.Proofs.Failure
import SafeFetch.Proofs.FileName.LastName
import SafeFetch.Proofs.Disposition.ContinuedName
import SafeFetch.Proofs.Destination.Provision
import SafeFetch.Proofs.Destination.Choice
import SafeFetch.Proofs.Http.Calendar
import SafeFetch.Proofs.Numeral
import SafeFetch.Proofs.Http.Moment
import SafeFetch.Proofs.Http.Layout
import SafeFetch.Proofs.Download.Commutation
import SafeFetch.Proofs.Manifest.Reference
import SafeFetch.Proofs.Http.Headers
import SafeFetch.Proofs.Digest.Expected
import SafeFetch.Proofs.Utf8.Lossy
import SafeFetch.Proofs.Percent.Rewriting
import SafeFetch.Proofs.Http.RequestPath
import SafeFetch.Proofs.Checksum.Sizes
