import MacroStubs.Main
import MacroStubs.Text.CharacterName
import MacroStubs.Number.Reading
import MacroStubs.Proofs.Docstring.ReadBack
import MacroStubs.Proofs.Declaration.Mark
import MacroStubs.Proofs.Signature.Nesting
import MacroStubs.Proofs.Declaration.Method
import MacroStubs.Proofs.Macroable.Growth
import MacroStubs.Proofs.Macroable.Runs
import MacroStubs.Proofs.Declaration.PairMacro
import MacroStubs.Proofs.Declaration.CallableMacro
import MacroStubs.Proofs.Stub.Layout
import MacroStubs.Proofs.Collection.Agreement
import MacroStubs.Proofs.Parameters.Legality
import MacroStubs.Proofs.Collection.LastState
import MacroStubs.Proofs.Collection.Rendering
import MacroStubs.Proofs.Destination.Writing
import MacroStubs.Proofs.Collection.Counts
import MacroStubs.Proofs.Destination.Exit
import MacroStubs.Proofs.Literal.RoundTrip
import MacroStubs.Proofs.Stub.Defaults
import MacroStubs.Proofs.Resolution.Positions
import MacroStubs.Proofs.Resolution.Outcome
import MacroStubs.Proofs.Resolution.Dotted
import MacroStubs.Proofs.Collection.Ownership
import MacroStubs.Proofs.Collection.Listing
import MacroStubs.Proofs.Parameters.ReadBack
import MacroStubs.Proofs.Declaration.Receiver
import MacroStubs.Proofs.Macroable.Adoption
import MacroStubs.Proofs.Lookup.Chain
import MacroStubs.Proofs.Lookup.Foreign
import MacroStubs.Proofs.Stub.Draft
import MacroStubs.Proofs.Logging.Sharing
import MacroStubs.Proofs.Import.Bootstrap
import MacroStubs.Proofs.Config.Layers
