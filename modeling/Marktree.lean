import Marktree.Text.Basic
import Marktree.Text.Reference
import Marktree.Text.Slug
import Marktree.Text.CaseFold
import Marktree.Text.Quoted
import Marktree.Text.Punctuation
import Marktree.Destination
import Marktree.Node.Json
import Marktree.Node.Outline
import Marktree.Node.Placeholder
import Marktree.Event
import Marktree.Config.Options
import Marktree.Markup.Basic
import Marktree.Markup.Html
import Marktree.Markup.Tree
import Marktree.Compile.Pass
import Marktree.Config.Assignment
import Marktree.Render
import Marktree.Surface
import Marktree.Markdown.Margin
import Marktree.Markdown.Reference
import Marktree.Markdown.Html
import Marktree.Markdown.Label
import Marktree.Markdown.Link
import Marktree.Markdown.Block
import Marktree.Markdown.Inline
import Marktree.Toml.Value
import Marktree.Toml.Scalar
import Marktree.Toml.Document
import Marktree.Files
import Marktree.Files.Tree
import Marktree.Config.File
import Marktree.CommandLine.Arguments
import Marktree.CommandLine.Run
import Marktree.Main
import Marktree.Proofs.Text.Escape
import Marktree.Proofs.Text.Digits
import Marktree.Proofs.Text.Letters
import Marktree.Proofs.Text.Slug
import Marktree.Proofs.Compile.Transport
import Marktree.Proofs.Compile.Alike
import Marktree.Proofs.Compile.Law
import Marktree.Proofs.Compile.Run
import Marktree.Proofs.Markup.Direct
import Marktree.Proofs.Node.Equality
import Marktree.Proofs.Node.Placeholder
import Marktree.Proofs.Node.Stream
import Marktree.Proofs.Markup.Tokens
import Marktree.Proofs.Markup.Agreement
import Marktree.Proofs.Markup.Flow
import Marktree.Proofs.Destination
import Marktree.Proofs.Markup.Attributes
import Marktree.Proofs.Markup.Targets
import Marktree.Proofs.Compile.Grammar
import Marktree.Proofs.Compile.Shape
import Marktree.Proofs.Compile.Fold
import Marktree.Proofs.Text.Anchors
import Marktree.Proofs.Node.Conservation
import Marktree.Proofs.Markup.Supply
import Marktree.Proofs.Markup.Anchors
import Marktree.Proofs.Markup.HtmlBlock
import Marktree.Proofs.Node.Cut
import Marktree.Proofs.Node.Reentry
import Marktree.Proofs.Markup.Custody
import Marktree.Proofs.Markup.Pruning
import Marktree.Proofs.Compile.Heads
import Marktree.Proofs.Markup.Consumption
import Marktree.Proofs.Compile.Balance
import Marktree.Proofs.Compile.Turn
import Marktree.Proofs.Compile.Machine
import Marktree.Proofs.Compile.Sequence
import Marktree.Proofs.Markup.Chunks
import Marktree.Proofs.Config.Assignment
import Marktree.Proofs.Config.Precedence
import Marktree.Proofs.Markup.Hooks
import Marktree.Proofs.Surface
import Marktree.Proofs.Text.Utf8
import Marktree.Proofs.Text.Words
import Marktree.Proofs.Text.Normal
import Marktree.Proofs.Text.Lines
import Marktree.Proofs.Text.BreakTag
import Marktree.Proofs.Text.Quoted
import Marktree.Proofs.Node.Preorder
import Marktree.Proofs.Node.Outline
import Marktree.Proofs.Compile.Language
import Marktree.Proofs.Markup.Nodes
import Marktree.Proofs.Markup.Outlines
import Marktree.Proofs.Markup.Relative
import Marktree.Proofs.Markup.Contents
import Marktree.Proofs.Markup.Readings
import Marktree.Proofs.Markup.Headings
import Marktree.Proofs.Compile.Content
import Marktree.Proofs.Compile.Outline
import Marktree.Proofs.Markup.Carriage
import Marktree.Proofs.Markup.Tables
import Marktree.Proofs.Render
