import FiniteAutomata.Asking
import FiniteAutomata.Automaton.Basic
import FiniteAutomata.Automaton.Query
import FiniteAutomata.Binary64.Basic
import FiniteAutomata.Binary64.Decimal
import FiniteAutomata.Collection.Ascending
import FiniteAutomata.Collection.Galloping
import FiniteAutomata.Collection.Ledger
import FiniteAutomata.Collection.Merging
import FiniteAutomata.Collection.Sorting
import FiniteAutomata.CommandLine.Invocation
import FiniteAutomata.CommandLine.Option
import FiniteAutomata.Construction
import FiniteAutomata.Description
import FiniteAutomata.Dfa.Basic
import FiniteAutomata.Dot.Quoting
import FiniteAutomata.Dot.Statement
import FiniteAutomata.Drawing
import FiniteAutomata.Event
import FiniteAutomata.Fault
import FiniteAutomata.Interaction
import FiniteAutomata.Main
import FiniteAutomata.Nfa.Basic
import FiniteAutomata.Nfa.Worklist
import FiniteAutomata.Picture
import FiniteAutomata.Program
import FiniteAutomata.Proofs.Account
import FiniteAutomata.Proofs.Allocation
import FiniteAutomata.Proofs.Asking
import FiniteAutomata.Proofs.Automaton
import FiniteAutomata.Proofs.Automaton.Asking
import FiniteAutomata.Proofs.Closure
import FiniteAutomata.Proofs.Collection.Ascending
import FiniteAutomata.Proofs.Collection.Firsts
import FiniteAutomata.Proofs.Collection.Galloping
import FiniteAutomata.Proofs.Collection.Ledger
import FiniteAutomata.Proofs.Collection.Lossless
import FiniteAutomata.Proofs.Collection.Merging
import FiniteAutomata.Proofs.Collection.Sorting
import FiniteAutomata.Proofs.Collection.Stable
import FiniteAutomata.Proofs.CommandLine
import FiniteAutomata.Proofs.Concatenation
import FiniteAutomata.Proofs.Contents
import FiniteAutomata.Proofs.Description
import FiniteAutomata.Proofs.Dfa.Asking
import FiniteAutomata.Proofs.Dfa.History
import FiniteAutomata.Proofs.Dfa.Overwriting
import FiniteAutomata.Proofs.Dfa.Renumbering
import FiniteAutomata.Proofs.Dfa.Run
import FiniteAutomata.Proofs.Dfa.Simulation
import FiniteAutomata.Proofs.Dfa.Table
import FiniteAutomata.Proofs.Dot.Quoting
import FiniteAutomata.Proofs.Dot.Reading
import FiniteAutomata.Proofs.Drawing
import FiniteAutomata.Proofs.Drawing.Bundle
import FiniteAutomata.Proofs.Drawing.Determined
import FiniteAutomata.Proofs.Drawing.Layout
import FiniteAutomata.Proofs.Drawing.Lines
import FiniteAutomata.Proofs.Drawing.Reading
import FiniteAutomata.Proofs.Drawing.Source
import FiniteAutomata.Proofs.Erasure
import FiniteAutomata.Proofs.Extension
import FiniteAutomata.Proofs.Interaction
import FiniteAutomata.Proofs.Label
import FiniteAutomata.Proofs.Listing
import FiniteAutomata.Proofs.Locality
import FiniteAutomata.Proofs.Met
import FiniteAutomata.Proofs.Naming
import FiniteAutomata.Proofs.Nfa.Acceptance
import FiniteAutomata.Proofs.Nfa.Asking
import FiniteAutomata.Proofs.Nfa.History
import FiniteAutomata.Proofs.Nfa.Reachability
import FiniteAutomata.Proofs.Nfa.Renumbering
import FiniteAutomata.Proofs.Nfa.Run
import FiniteAutomata.Proofs.Nfa.Similar
import FiniteAutomata.Proofs.Nfa.Simulation
import FiniteAutomata.Proofs.Nfa.Table
import FiniteAutomata.Proofs.Nfa.Visiting
import FiniteAutomata.Proofs.Outcome
import FiniteAutomata.Proofs.Plan
import FiniteAutomata.Proofs.Program
import FiniteAutomata.Proofs.Rebuilding
import FiniteAutomata.Proofs.Record
import FiniteAutomata.Proofs.Registry
import FiniteAutomata.Proofs.Relabelling
import FiniteAutomata.Proofs.Renumbering
import FiniteAutomata.Proofs.Safety
import FiniteAutomata.Proofs.Sample
import FiniteAutomata.Proofs.Session.Independence
import FiniteAutomata.Proofs.Session.Ownership
import FiniteAutomata.Proofs.Session.Questions
import FiniteAutomata.Proofs.Session.Things
import FiniteAutomata.Proofs.Showable
import FiniteAutomata.Proofs.Similar
import FiniteAutomata.Proofs.SortedStates
import FiniteAutomata.Proofs.Spelling
import FiniteAutomata.Proofs.StateHistory
import FiniteAutomata.Proofs.StateName
import FiniteAutomata.Proofs.Terminal.Action
import FiniteAutomata.Proofs.Terminal.Asking
import FiniteAutomata.Proofs.Terminal.Atomicity
import FiniteAutomata.Proofs.Terminal.Execution
import FiniteAutomata.Proofs.Terminal.Letters
import FiniteAutomata.Proofs.Terminal.Trace
import FiniteAutomata.Proofs.Terminal.Transcription
import FiniteAutomata.Proofs.Terminal.Typing
import FiniteAutomata.Proofs.Text.Delimiting
import FiniteAutomata.Proofs.Text.Quoted
import FiniteAutomata.Proofs.Text.Words
import FiniteAutomata.Proofs.Textual
import FiniteAutomata.Proofs.Transition
import FiniteAutomata.Proofs.Twins.Agreement
import FiniteAutomata.Proofs.Twins.Construction
import FiniteAutomata.Proofs.Workspace
import FiniteAutomata.Registry
import FiniteAutomata.Sample
import FiniteAutomata.Session
import FiniteAutomata.StateName
import FiniteAutomata.Terminal.Action
import FiniteAutomata.Terminal.Command
import FiniteAutomata.Terminal.Execution
import FiniteAutomata.Terminal.Word
import FiniteAutomata.Text.Blank
import FiniteAutomata.Text.Casing
import FiniteAutomata.Text.Digit
import FiniteAutomata.Text.Lowercase
import FiniteAutomata.Text.Numeral
import FiniteAutomata.Text.Printable
import FiniteAutomata.Text.Quoted
import FiniteAutomata.Text.Range
import FiniteAutomata.Transition
import FiniteAutomata.Value.Basic
import FiniteAutomata.Value.Order
import FiniteAutomata.Value.Symbol
import FiniteAutomata.Value.Text
import FiniteAutomata.Workspace
