import AssertionHeader.Disk.Tree
import AssertionHeader.Main
import AssertionHeader.Text.Width.Lemmas
import AssertionHeader.Proofs.Agreement
import AssertionHeader.Proofs.Dependencies
import AssertionHeader.Proofs.Operations
import AssertionHeader.Proofs.Sections
import AssertionHeader.Proofs.Advice
import AssertionHeader.Proofs.Advice.Reading
import AssertionHeader.Proofs.Document
import AssertionHeader.Proofs.Includes
import AssertionHeader.Proofs.Placement
import AssertionHeader.Proofs.Decoding
import AssertionHeader.Proofs.Deliveries
import AssertionHeader.Proofs.Answers
import AssertionHeader.Proofs.Resolution
import AssertionHeader.Proofs.Interruption
import AssertionHeader.Proofs.Layout
import AssertionHeader.Proofs.Enclosure
import AssertionHeader.Proofs.Recognition
import AssertionHeader.Proofs.Literals
import AssertionHeader.Proofs.Calls
import AssertionHeader.Proofs.Filling
import AssertionHeader.Proofs.Fitting
import AssertionHeader.Proofs.Alignment
import AssertionHeader.Proofs.Denotation
import AssertionHeader.Proofs.Expansion
import AssertionHeader.Proofs.Capture
import AssertionHeader.Proofs.Containment
import AssertionHeader.Proofs.Remarks
import AssertionHeader.Proofs.Priority
