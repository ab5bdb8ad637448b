import ZeroTail.Buffer.Digest
import ZeroTail.Fixture.Profile
import ZeroTail.Session.Run
import ZeroTail.Main
import ZeroTail.Proofs.Buffer.Scan
import ZeroTail.Proofs.Buffer.Split
import ZeroTail.Proofs.Boundary.Count
import ZeroTail.Proofs.Session.Count
import ZeroTail.Proofs.Fixture.Refusal
import ZeroTail.Proofs.Session.Body
import ZeroTail.Proofs.Session.Message
import ZeroTail.Proofs.Boundary.Total
import ZeroTail.Proofs.Fixture.Tail
import ZeroTail.Proofs.Fixture.Profile
import ZeroTail.Proofs.Report
import ZeroTail.Proofs.Session.Frame
import ZeroTail.Proofs.Session.Interleaving
import ZeroTail.Proofs.Session.LastWrite
import ZeroTail.Proofs.Fixture.Bounds
import ZeroTail.Proofs.Boundary.Message
import ZeroTail.Proofs.Session.Reading
import ZeroTail.Proofs.Fixture.Sparse
import ZeroTail.Proofs.Fixture.Head
import ZeroTail.Proofs.Buffer.Append
import ZeroTail.Proofs.Buffer.Overwrite
import ZeroTail.Proofs.Buffer.Divisibility
import ZeroTail.Proofs.Sampling.Advance
import ZeroTail.Proofs.Fixture.Shorter
import ZeroTail.Proofs.Buffer.Measures
import ZeroTail.Proofs.Text.Quoted
import ZeroTail.Proofs.Report.ErrorLine
