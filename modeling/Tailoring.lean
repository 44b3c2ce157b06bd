import Tailoring.Literal.UnicodeEscape
import Tailoring.Main
import Tailoring.Proofs.IcuRules.Emission
import Tailoring.Proofs.IcuRules.VariableTop
import Tailoring.Proofs.Literal.Reader
import Tailoring.Proofs.Literal.ReadBack
import Tailoring.Proofs.Literal.Plain
import Tailoring.Proofs.IcuRules.Entry
import Tailoring.Proofs.IcuRules.Unambiguous
import Tailoring.Proofs.SimpleRules.Token
import Tailoring.Proofs.Text.Search
import Tailoring.Proofs.SimpleRules.Group
import Tailoring.Proofs.SimpleRules.Lossless
import Tailoring.Proofs.IcuRules.Faults
import Tailoring.Proofs.Expansion
import Tailoring.Proofs.SimpleRules.Agreement
import Tailoring.Proofs.SimpleRules.Options
import Tailoring.Proofs.Text.Breaks
import Tailoring.Proofs.IcuRules.LineBreaks
import Tailoring.Proofs.SimpleRules.LineBreaks
import Tailoring.Proofs.Literal.Settled
import Tailoring.Proofs.Ldml.Reading
import Tailoring.Proofs.Ldml.Documented
import Tailoring.Proofs.Ldml.Markup
import Tailoring.Proofs.Ldml.Noise
import Tailoring.Proofs.CommandLine.OutputName
import Tailoring.Proofs.CommandLine.Saving
import Tailoring.Proofs.CommandLine.Calls
import Tailoring.Proofs.CommandLine.Session
import Tailoring.Proofs.CommandLine.Atomicity
import Tailoring.Proofs.Literal.Decoding
import Tailoring.Proofs.Literal.Masked
import Tailoring.Proofs.SimpleRules.Brackets
import Tailoring.Proofs.SimpleRules.Nesting
import Tailoring.Proofs.Literal.Insertion
import Tailoring.Proofs.SimpleRules.Acceptance
import Tailoring.Proofs.IcuRules.Ending
import Tailoring.Proofs.Reference
import Tailoring.Proofs.Ldml.Lookup
import Tailoring.Proofs.Ldml.Parts
import Tailoring.Proofs.Text.Segmentation
import Tailoring.Proofs.SimpleRules.Balance
import Tailoring.Proofs.CommandLine.NameSearch
