import TextTemplate.Text.Slice
import TextTemplate.Text.Utf8
import TextTemplate.Log
import TextTemplate.Token.Scanner
import TextTemplate.Text.Encoding
import TextTemplate.Text.Order
import TextTemplate.Diagnostic
import TextTemplate.Format
import TextTemplate.Sink
import TextTemplate.Output
import TextTemplate.Context
import TextTemplate.Action
import TextTemplate.Substituter
import TextTemplate.Session
import TextTemplate.Config.Document
import TextTemplate.Toml.Document
import TextTemplate.Proofs.Scanning
import TextTemplate.Proofs.Rendering
import TextTemplate.Proofs.Printing
import TextTemplate.Proofs.Concatenation
import TextTemplate.Proofs.Truncation
import TextTemplate.Proofs.Isolation
import TextTemplate.Proofs.Repair
import TextTemplate.Proofs.Definitions
import TextTemplate.Proofs.Interference
import TextTemplate.Proofs.Logging
import TextTemplate.Proofs.Cells
import TextTemplate.Proofs.Lexing
import TextTemplate.Proofs.Slicing
import TextTemplate.Proofs.Accounting
import TextTemplate.Proofs.Reconstruction
import TextTemplate.Proofs.Extension
import TextTemplate.Proofs.Exchange
import TextTemplate.Proofs.LongForm
import TextTemplate.Proofs.Naming
import TextTemplate.Proofs.Unterminated
import TextTemplate.Proofs.Fields
import TextTemplate.Proofs.Conversion
import TextTemplate.Proofs.Operations
import TextTemplate.Proofs.Padding
import TextTemplate.Proofs.Decoding
import TextTemplate.Proofs.Progress
