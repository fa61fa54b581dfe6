import CommandTree.Lookahead.Listed
import CommandTree.Main
import CommandTree.Proofs.Bounds.Decimals
import CommandTree.Proofs.Bounds.Parameters
import CommandTree.Proofs.Claimants
import CommandTree.Proofs.Conversation
import CommandTree.Proofs.Cursor
import CommandTree.Proofs.Descent
import CommandTree.Proofs.EndOfInput
import CommandTree.Proofs.Failing
import CommandTree.Proofs.Insertion
import CommandTree.Proofs.Issues.Order
import CommandTree.Proofs.Json.Trees
import CommandTree.Proofs.Layout
import CommandTree.Proofs.Lexicon.Writing
import CommandTree.Proofs.LineEnds
import CommandTree.Proofs.Lines
import CommandTree.Proofs.Machine.Accounts
import CommandTree.Proofs.Preorder.Source
import CommandTree.Proofs.Rounding.Single
import CommandTree.Proofs.Sources
import CommandTree.Proofs.Space
import CommandTree.Proofs.Verdict
import CommandTree.Reader.Builder
import CommandTree.Telemetry
