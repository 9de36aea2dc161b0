import Highlight.Cache.Basic
import Highlight.Cache.File
import Highlight.Cache.Key
import Highlight.Cache.Memory
import Highlight.CommandLine.Arguments
import Highlight.CommandLine.Run
import Highlight.Config
import Highlight.Duration
import Highlight.Files.Basic
import Highlight.Files.Disk
import Highlight.Files.Failure
import Highlight.Files.Path
import Highlight.Grammar
import Highlight.Grammar.Builtin
import Highlight.Grammar.C
import Highlight.Grammar.Css
import Highlight.Grammar.Ini
import Highlight.Grammar.Json
import Highlight.Grammar.Lexeme
import Highlight.Grammar.Lua
import Highlight.Grammar.Php
import Highlight.Grammar.Python
import Highlight.Grammar.Script
import Highlight.Grammar.Shell
import Highlight.Grammar.Tagged
import Highlight.Grammar.Url
import Highlight.Highlighter
import Highlight.Host
import Highlight.Main
import Highlight.Markup.Block
import Highlight.Markup.Element
import Highlight.Markup.Escape
import Highlight.Markup.Query
import Highlight.Markup.Render
import Highlight.Order
import Highlight.Pattern.Automaton.Class
import Highlight.Pattern.Automaton.Encoding
import Highlight.Pattern.Automaton.Size
import Highlight.Pattern.Automaton.Tally
import Highlight.Pattern.Automaton.Texts
import Highlight.Pattern.Basic
import Highlight.Pattern.Build
import Highlight.Pattern.CharSet
import Highlight.Pattern.Expression.Basic
import Highlight.Pattern.Expression.Marking
import Highlight.Pattern.Malformed
import Highlight.Pattern.Outcome
import Highlight.Pattern.Search
import Highlight.Pattern.Spelling.Bracket
import Highlight.Pattern.Spelling.Escape
import Highlight.Pattern.Spelling.Group
import Highlight.Pattern.Spelling.Reader
import Highlight.Pattern.Spelling.Scan
import Highlight.Proofs.Cache.Agree
import Highlight.Proofs.Cache.Failed
import Highlight.Proofs.Cache.File
import Highlight.Proofs.Cache.Folder
import Highlight.Proofs.Cache.Frame
import Highlight.Proofs.Cache.History
import Highlight.Proofs.Cache.Key
import Highlight.Proofs.Cache.Memory
import Highlight.Proofs.Cache.Repair
import Highlight.Proofs.Cache.Run
import Highlight.Proofs.Cache.Shared
import Highlight.Proofs.Cache.Size
import Highlight.Proofs.Cache.Stock
import Highlight.Proofs.Cache.Transparent
import Highlight.Proofs.CommandLine.Arguments
import Highlight.Proofs.CommandLine.Failed
import Highlight.Proofs.CommandLine.Invisible
import Highlight.Proofs.CommandLine.Observe
import Highlight.Proofs.CommandLine.Run
import Highlight.Proofs.Config.Lines
import Highlight.Proofs.Config.Load
import Highlight.Proofs.Files.Content
import Highlight.Proofs.Files.Origin
import Highlight.Proofs.Files.Place
import Highlight.Proofs.Files.Straight
import Highlight.Proofs.Finds
import Highlight.Proofs.Forms.Apart
import Highlight.Proofs.Forms.Comments
import Highlight.Proofs.Forms.Finds
import Highlight.Proofs.Forms.Form
import Highlight.Proofs.Forms.Languages
import Highlight.Proofs.Forms.Match
import Highlight.Proofs.Forms.Scan
import Highlight.Proofs.Forms.Strings
import Highlight.Proofs.Highlighter
import Highlight.Proofs.Host
import Highlight.Proofs.Json.Keys
import Highlight.Proofs.Json.Lexemes
import Highlight.Proofs.Json.Strings
import Highlight.Proofs.Json.Syntax
import Highlight.Proofs.Json.Tokens
import Highlight.Proofs.Lines.Scan
import Highlight.Proofs.Lines.Tokens
import Highlight.Proofs.Markup.Attribute
import Highlight.Proofs.Markup.Block
import Highlight.Proofs.Markup.Entity
import Highlight.Proofs.Markup.Escape
import Highlight.Proofs.Markup.Lexeme
import Highlight.Proofs.Markup.Outline
import Highlight.Proofs.Markup.Query
import Highlight.Proofs.Markup.Render
import Highlight.Proofs.Markup.Tree
import Highlight.Proofs.Matches
import Highlight.Proofs.Order
import Highlight.Proofs.Pattern.Extent
import Highlight.Proofs.Pattern.Language
import Highlight.Proofs.Pattern.Line
import Highlight.Proofs.Pattern.Preference
import Highlight.Proofs.Placed
import Highlight.Proofs.Registry.Additions
import Highlight.Proofs.Registry.Names
import Highlight.Proofs.Registry.Resolve
import Highlight.Proofs.Renderings
import Highlight.Proofs.Scan
import Highlight.Proofs.Segment
import Highlight.Proofs.Shell.Claimed
import Highlight.Proofs.Shell.Commands
import Highlight.Proofs.Shell.Matches
import Highlight.Proofs.Shell.Rules
import Highlight.Proofs.Shell.Words
import Highlight.Proofs.Steps
import Highlight.Proofs.Terminal.Display
import Highlight.Proofs.Text.Boundary
import Highlight.Proofs.Text.Case
import Highlight.Proofs.Text.Decimal
import Highlight.Proofs.Text.Split
import Highlight.Proofs.Tokenize.Gaps
import Highlight.Proofs.Tokenize.Picked
import Highlight.Proofs.Tokenize.Pieces
import Highlight.Proofs.Tokenize.Priority
import Highlight.Proofs.Tokenize.Progress
import Highlight.Proofs.Tokenize.Run
import Highlight.Proofs.Tokenize.Runs
import Highlight.Proofs.Tokenize.Spans
import Highlight.Proofs.Url.Parts
import Highlight.Proofs.Url.Tokens
import Highlight.Proofs.Words.Finds
import Highlight.Proofs.Words.Keywords
import Highlight.Proofs.Words.Letters
import Highlight.Proofs.Words.Outside
import Highlight.Proofs.Words.Spelling
import Highlight.Proofs.Words.Whole
import Highlight.Registry
import Highlight.Rule
import Highlight.Segment
import Highlight.Style
import Highlight.Terminal
import Highlight.Text.Basic
import Highlight.Text.Decimal
import Highlight.Token
import Highlight.TokenType
import Highlight.Tokenize
import Highlight.Unicode.Age
import Highlight.Unicode.Break
import Highlight.Unicode.Break.Grapheme
import Highlight.Unicode.Break.Sentence
import Highlight.Unicode.Break.Word
import Highlight.Unicode.Category
import Highlight.Unicode.Fold
import Highlight.Unicode.Letter
import Highlight.Unicode.Lookup
import Highlight.Unicode.Lower
import Highlight.Unicode.Number
import Highlight.Unicode.Property
import Highlight.Unicode.Ranges
import Highlight.Unicode.Script
import Highlight.Unicode.ScriptExtension
import Highlight.Unicode.WhiteSpace
import Highlight.Unicode.Word
